import Tabletop.Decimal.Binary
import Tabletop.Decimal.Whole
import Tabletop.Text.Blank
import Tabletop.Text.Pieces

/-!
# Cells of the board

A cell is a column and a row, both counted from zero.

* A *reference* such as `C3` writes the column in letters, `A` to `Z`, then `AA`, and the row as a
  number whose first value is a setting. `ofReference?` reads it, `reference?` writes it.
* A *key* such as `2,2` writes both counts. `ofKey?` reads it, `key` writes it.
* `ofPoint?` is the cell nearest to a point between the cells.
-/

namespace Tabletop

/-- The number that a reference gives to the first row. -/
inductive RowBase where
  | zero
  | one
deriving DecidableEq, Repr, Inhabited

namespace RowBase

def offset : RowBase → Nat
  | zero => 0
  | one => 1

def name : RowBase → String
  | zero => "zero"
  | one => "one"

def ofName? (s : String) : Option RowBase :=
  if s = "zero" then some .zero else if s = "one" then some .one else none

end RowBase

structure Cell where
  col : UInt32
  row : UInt32
deriving DecidableEq, Repr, Inhabited

namespace Cell

/-- Cells are ordered by column first. -/
instance : Ord Cell := ⟨compareLex (compareOn col) (compareOn row)⟩

instance : Std.TransOrd Cell :=
  inferInstanceAs (Std.TransCmp (compareLex (compareOn col) (compareOn row)))

instance : Std.LawfulEqOrd Cell where
  compare_self := Std.ReflCmp.compare_self
  eq_of_compare {a b} h := by
    have h : (compareLex (compareOn col) (compareOn row)) a b = .eq := h
    rw [compareLex, Ordering.then_eq_eq] at h
    obtain ⟨h₁, h₂⟩ := h
    cases a; cases b
    exact congr (congrArg Cell.mk (Std.LawfulEqOrd.eq_of_compare h₁))
      (Std.LawfulEqOrd.eq_of_compare h₂)

/-- The cell with these counts, if they have 32 bits. -/
def ofNat? (col row : Nat) : Option Cell :=
  if col ≤ Decimal.word32 ∧ row ≤ Decimal.word32 then
    some ⟨UInt32.ofNat col, UInt32.ofNat row⟩
  else none

/-! ## Keys -/

def key (c : Cell) : String := s!"{c.col.toNat},{c.row.toNat}"

def ofKey? (s : String) : Option Cell := do
  let (col, row) ← Text.cut (· == ',') s.toList
  return ⟨← Decimal.readUInt32? (Text.trim col), ← Decimal.readUInt32? (Text.trim row)⟩

/-- Says that a text is no key. -/
def malformedKey (s : String) : String := s!"invalid cell key '{s}' (expected \"col,row\")"

/-! ## References -/

def letterValue (c : Char) : Nat := c.toUpper.toNat - 'A'.toNat + 1

def letterOf (d : Nat) : Char := Char.ofNat ('A'.toNat + d)

/-- The number that letters stand for: `A` is 1, `Z` is 26, `AA` is 27. -/
def lettersValue (cs : List Char) : Nat := cs.foldl (fun n c => 26 * n + letterValue c) 0

/-- The letters that stand for `n`; none for zero. -/
def lettersOf (n : Nat) : List Char :=
  if n = 0 then [] else lettersOf ((n - 1) / 26) ++ [letterOf ((n - 1) % 26)]
termination_by n
decreasing_by omega

def ofReferenceChars? (base : RowBase) (cs : List Char) : Option Cell :=
  let text := Text.trim cs
  let letters := text.takeWhile Char.isAlpha
  let digits := text.dropWhile Char.isAlpha
  if letters.isEmpty then none
  else
    match Decimal.readDigits? digits with
    | none => none
    | some row =>
      if row ≤ Decimal.word32 ∧ base.offset ≤ row ∧ lettersValue letters ≤ Decimal.word32 then
        some ⟨UInt32.ofNat (lettersValue letters - 1), UInt32.ofNat (row - base.offset)⟩
      else none

def ofReference? (base : RowBase) (s : String) : Option Cell := ofReferenceChars? base s.toList

/-- A row whose number does not have 32 bits has no reference. -/
def reference? (base : RowBase) (c : Cell) : Option String :=
  let row := c.row.toNat + base.offset
  if row ≤ Decimal.word32 then
    some (String.ofList (lettersOf (c.col.toNat + 1) ++ Decimal.digits row))
  else none

/-! ## Points -/

/-- The nearest cell; halves go to the higher count. -/
def ofPoint? (col row : Float) : Option Cell := do
  match ← Decimal.nearestInt? col, ← Decimal.nearestInt? row with
  | .ofNat c, .ofNat r => ofNat? c r
  | _, _ => none

end Cell

end Tabletop
