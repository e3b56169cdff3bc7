import Tabletop.Decimal.Whole
import Tabletop.Text.Blank
import Tabletop.Text.Pieces

/-!
# Token ids

A token is named by a stem and a number, written `stem-number`. The stem may hold hyphens itself:
the last one divides.

* `ofText?` reads an id, `text` writes it.
* `next` is the id that the next token with a stem gets: one past the highest number in use.
-/

namespace Tabletop

structure TokenId where
  stem : String
  number : UInt32
deriving DecidableEq, Repr, Inhabited

namespace TokenId

def chars (id : TokenId) : List Char :=
  id.stem.toList ++ '-' :: Decimal.digits id.number.toNat

def text (id : TokenId) : String := String.ofList id.chars

def ofChars? (cs : List Char) : Option TokenId := do
  let (stem, number) ← Text.cutLast (· == '-') (Text.trim cs)
  if stem.isEmpty || stem.any Text.isBlank then none
  return ⟨String.ofList stem, ← Decimal.readUInt32? number⟩

/-- The stem is not empty and has no blanks. -/
def ofText? (s : String) : Option TokenId := ofChars? s.toList

/-- Says that a text is no id, and repeats it without the blanks around it. -/
def malformed (s : String) : String :=
  s!"invalid token id '{String.ofList (Text.trim s.toList)}' (expected <base>-<number>)"

/-- Whether the written id begins with a text. -/
def beginsWith (id : TokenId) (head : String) : Bool := head.toList.isPrefixOf id.chars

/-- By stem, then by number. -/
def precedes (a b : TokenId) : Bool :=
  a.stem < b.stem || (a.stem == b.stem && a.number ≤ b.number)

def sort (ids : List TokenId) : List TokenId := ids.mergeSort precedes

def highest (stem : String) (ids : List TokenId) : UInt32 :=
  ids.foldl (fun top id => if id.stem = stem then max top id.number else top) 0

def next (stem : String) (ids : List TokenId) : TokenId := ⟨stem, highest stem ids + 1⟩

end TokenId

end Tabletop
