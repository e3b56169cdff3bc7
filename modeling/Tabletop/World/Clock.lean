import Tabletop.Decimal.Hypotenuse
import Tabletop.Settings
import Tabletop.World

/-!
# The clock

Between batches only the clock changes a world. It walks tokens along their paths and lets effects
grow old, and it touches nothing but the scene.

* `Quantity` is the arithmetic that this takes. Floating point numbers have it, and so have exact
  ones.
* `Walk.along` spends a travel budget on the waypoints ahead.
* `Clock.tick` is a stretch of time for a whole scene; the `Tick` tells which tokens arrived and
  which effects ended.
-/

namespace Tabletop

/-- Numbers for places and times. -/
class Quantity (α : Type) extends Zero α, Add α, Sub α, Mul α, Div α where
  atMost : α → α → Bool
  below : α → α → Bool
  size : α → α
  isFinite : α → Bool
  /-- The long side of a right-angled triangle. -/
  hypotenuse : α → α → α

instance : Quantity Float where
  zero := 0.0
  atMost a b := a ≤ b
  below a b := a < b
  size := Float.abs
  isFinite := Float.isFinite
  hypotenuse := Decimal.hypotenuse

variable {α : Type} [Quantity α]

open Quantity

/-- The number, or zero for a negative one and for what is no number. -/
def orZero (a : α) : α := if below 0 a then a else 0

namespace Point

def distance (p q : Point α) : α := hypotenuse (q.col - p.col) (q.row - p.row)

/-- The point that divides the way from `p` to `q`. -/
def toward (p q : Point α) (fraction : α) : Point α :=
  ⟨p.col + (q.col - p.col) * fraction, p.row + (q.row - p.row) * fraction⟩

end Point

/-! ## Walking -/

namespace Walk

/-- Spends a budget on the waypoints ahead of a position: how many are passed, and the position
afterwards. A waypoint nearer than `epsilon` counts as reached. -/
def along (epsilon budget : α) (position : Point α) : List (Point α) → Nat × Point α
  | [] => (0, position)
  | target :: rest =>
    let remaining := position.distance target
    if atMost remaining budget || below remaining epsilon then
      let (passed, p) := along epsilon (budget - remaining) target rest
      (passed + 1, p)
    else
      let p := position.toward target (budget / remaining)
      if below (p.distance target) epsilon then (1, target) else (0, p)

/-- The walk and the position of its token after some time. -/
def advance (epsilon time : α) (w : Walk α) (position : Point α) : Walk α × Point α :=
  let (passed, p) := along epsilon (orZero w.speed * time) position (w.path.drop w.index)
  ({ w with index := w.index + passed }, p)

end Walk

/-! ## Ticks -/

structure Clock (α : Type) where
  scale : α
  epsilon : α
deriving DecidableEq

/-- What ended during a tick. -/
structure Tick where
  arrived : List TokenId
  expired : List Nat
deriving DecidableEq

def Tick.isQuiet (t : Tick) : Bool := t.arrived.isEmpty && t.expired.isEmpty

namespace Clock

def ofSettings (s : Settings.Animation) : Clock Float where
  scale := if s.speedScale.isFinite then orZero s.speedScale else 1.0
  epsilon := s.arrivalEpsilon.abs

/-- The time that passes on the board. What is negative or not finite counts as no time. -/
def elapsed (c : Clock α) (seconds : α) : α :=
  if isFinite seconds then orZero seconds * c.scale else 0

/-- Tokens and walks afterwards, and the tokens that arrived. The walk of a token that is gone goes,
too. -/
def advanceWalks (c : Clock α) (time : α) :
    List (Token α) → List (Walk α) → List (Token α) × List (Walk α) × List TokenId
  | tokens, [] => (tokens, [], [])
  | tokens, w :: rest =>
    match tokens.find? (·.id == w.token) with
    | none => advanceWalks c time tokens rest
    | some token =>
      let (w', position) := w.advance c.epsilon time token.position
      let tokens := updateFirst (·.id == w.token) ({ · with position }) tokens
      let (tokens, walks, arrived) := advanceWalks c time tokens rest
      if w'.isFinished then (tokens, walks, w.token :: arrived) else (tokens, w' :: walks, arrived)

def older (time : α) (e : Effect α) : Effect α := { e with age := e.age + time }

def isExpired (e : Effect α) : Bool := below e.duration e.age

def tick (c : Clock α) (s : Scene α) (seconds : α) : Scene α × Tick :=
  let time := c.elapsed seconds
  let (tokens, walks, arrived) := c.advanceWalks time s.tokens s.walks
  let effects := s.effects.map (older time)
  (⟨tokens, walks, effects.filter (!isExpired ·)⟩,
    ⟨arrived, (effects.filter isExpired).map (·.id)⟩)

end Clock

/-- The world after some seconds. -/
def World.tick (w : World) (c : Clock Float) (seconds : Float) : World × Tick :=
  let (scene, report) := c.tick w.scene seconds
  ({ w with scene }, report)

end Tabletop
