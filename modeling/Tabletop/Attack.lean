import Tabletop.Decimal.Whole
import Tabletop.Text.Blank
import Tabletop.Text.Letters
import Tabletop.Text.Pieces

/-!
# Attacks

An attack is written `name|mode|to hit|damage|reach`, several of them with semicolons between. Only
the name is required.

* `Reach` is a window of distances in cells, both ends included.
* `AttackKind.ofMode` tells a magical attack by the words of its mode.
* `Attack.listOf` reads a list of attacks and leaves out those without a name.
-/

namespace Tabletop

inductive AttackKind where
  | physical
  | magic
deriving DecidableEq, Repr, Inhabited

namespace AttackKind

def name : AttackKind → String
  | physical => "physical"
  | magic => "magic"

def ofName? (s : String) : Option AttackKind :=
  if s = "physical" then some .physical else if s = "magic" then some .magic else none

def magicWords : List String :=
  ["magic", "spell", "arcane", "divine", "psychic", "radiant", "necrotic", "eldritch"]

def ofMode (mode : String) : AttackKind :=
  let mode := Text.lower mode.toList
  if magicWords.any fun word => Text.hasPart word.toList mode then .magic else .physical

end AttackKind

/-! ## Reach -/

structure Reach where
  min : UInt32
  max : UInt32
deriving DecidableEq, Repr

namespace Reach

/-- The neighbouring cells only. -/
def touch : Reach := ⟨1, 1⟩

/-- The window `min/max`, or `n` for `1/n`. Everything else, a window with its ends exchanged
included, is the reach of a touch. -/
def ofChars (cs : List Char) : Reach :=
  let text := Text.trim cs
  let ends :=
    match Text.cut (· == '/') text with
    | some (a, b) => do
      return (← Decimal.readUInt32? (Text.trim a), ← Decimal.readUInt32? (Text.trim b))
    | none => (Decimal.readUInt32? text).map ((1, ·))
  match ends with
  | some (a, b) => if a ≤ b then ⟨a, b⟩ else touch
  | none => touch

def covers (r : Reach) (distance : Nat) : Bool :=
  r.min.toNat ≤ distance && distance ≤ r.max.toNat

def text (r : Reach) : String := s!"{r.min.toNat}/{r.max.toNat}"

end Reach

/-! ## Attacks -/

structure Attack where
  name : String
  mode : String
  toHit : Int32
  damage : String
  reach : Reach
deriving DecidableEq, Repr

namespace Attack

def kind (a : Attack) : AttackKind := .ofMode a.mode

def withoutPluses (cs : List Char) : List Char := cs.dropWhile (· == '+')

def ofChars? (cs : List Char) : Option Attack :=
  let fields := (cs.splitOn '|').map Text.trim
  let field := fun i : Nat => fields[i]?
  match field 0 with
  | none => none
  | some name =>
    if name.isEmpty then none
    else
      some {
        name := String.ofList name
        mode := String.ofList (((field 1).filter (! ·.isEmpty)).getD "melee".toList)
        toHit := ((field 2).bind fun h => Decimal.readInt32? (withoutPluses h)).getD 0
        damage := String.ofList ((field 3).getD [])
        reach := ((field 4).map Reach.ofChars).getD .touch }

def listOf (s : String) : List Attack := (s.toList.splitOn ';').filterMap ofChars?

end Attack

end Tabletop
