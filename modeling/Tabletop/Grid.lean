import Tabletop.Cell

/-!
# Distances on the grid

A board of squares counts steps along columns and rows. A board of hexagons has its odd rows pushed
to the right; there a step leads to one of six neighbours.

* `Grid.distance` counts the steps from cell to cell with 32 bits. On squares the count wraps around,
  and on hexagons it is capped.
* `Grid.clampToward` is how far a token gets on the straight line to its goal with a number of
  steps: the goal itself when it is near enough, and otherwise a cell that `pullBack` reaches from
  the line, one step at a time along the longer axis.
-/

namespace Tabletop

inductive Grid where
  | square
  | hex
deriving DecidableEq, Repr, Inhabited

namespace Grid

def name : Grid → String
  | square => "square"
  | hex => "hex"

def ofName? (s : String) : Option Grid :=
  if s = "square" then some .square else if s = "hex" then some .hex else none

/-! ## Distance -/

/-- The steps between two cells of a board of squares, before they are counted with 32 bits. -/
def squareSteps (a b : Cell) : Nat :=
  ((a.col.toNat : Int) - b.col.toNat).natAbs + ((a.row.toNat : Int) - b.row.toNat).natAbs

/-- The columns and the rows are added with 32 bits, and the sum wraps around. -/
def squareDistance (a b : Cell) : Nat := squareSteps a b % UInt32.size

/-- The axis of a hexagon's cell that runs down and to the right. -/
def slant (c : Cell) : Int := c.col.toNat - (c.row.toNat / 2 : Nat)

/-- The steps between two cells of a board of hexagons, before the cap at 32 bits. -/
def hexSteps (a b : Cell) : Nat :=
  let dx := slant a - slant b
  let dz : Int := (a.row.toNat : Int) - b.row.toNat
  max (max dx.natAbs (dx + dz).natAbs) dz.natAbs

def hexDistance (a b : Cell) : Nat := min (hexSteps a b) Decimal.word32

def distance : Grid → Cell → Cell → Nat
  | square => squareDistance
  | hex => hexDistance

/-! ## Clamped movement -/

/-- The cell with these counts; counts below zero and above 32 bits go to the nearest bound. -/
def cellAt (col row : Int) : Cell :=
  ⟨UInt32.ofNat (min col.toNat Decimal.word32), UInt32.ofNat (min row.toNat Decimal.word32)⟩

/-- One step back toward `home` along the axis that is further from it. -/
def stepBack (home : Cell) (col row : Int) : Int × Int :=
  let dc := col - home.col.toNat
  let dr := row - home.row.toNat
  if dr.natAbs ≤ dc.natAbs then (col - dc.sign, row) else (col, row - dr.sign)

/-- Steps back until the distance from `home` is within the budget. The number of steps that reach
`home` itself is enough. -/
def pullBackFrom (grid : Grid) (home : Cell) (budget : Nat) : (steps : Nat) → Int → Int → Cell
  | 0, col, row => cellAt col row
  | steps + 1, col, row =>
    let cell := cellAt col row
    if grid.distance home cell ≤ budget then cell
    else
      let (col', row') := stepBack home col row
      pullBackFrom grid home budget steps col' row'

def pullBack (grid : Grid) (home : Cell) (budget : Nat) (col row : Int) : Cell :=
  let steps := (col - home.col.toNat).natAbs + (row - home.row.toNat).natAbs
  pullBackFrom grid home budget steps col row

/-- The whole number nearest to the point that divides the way from `a` to `b`. -/
def between (a b : UInt32) (fraction : Float) : Int :=
  let start := Float.ofNat a.toNat
  (Decimal.nearestInt? (start + (Float.ofNat b.toNat - start) * fraction)).getD 0

def clampToward (grid : Grid) (home goal : Cell) (budget : Nat) : Cell :=
  let distance := grid.distance home goal
  if distance ≤ budget then goal
  else
    let fraction := Float.ofNat budget / Float.ofNat distance
    pullBack grid home budget (between home.col goal.col fraction)
      (between home.row goal.row fraction)

end Grid

end Tabletop
