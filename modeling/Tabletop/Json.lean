/-!
# JSON values

Whole numbers and fractions are kept apart, as the texts keep them apart. The fields of a record
stand in the order of the text, and a key may occur more than once.

The part on records reads a value against the names of the fields that it must have:
`Json.fields?` takes a record, whose further fields it passes over, or a list with one item for
each name.
-/

namespace Tabletop

inductive Json where
  | null
  | bool (b : Bool)
  | int (n : Int)
  | float (x : Float)
  | text (s : String)
  | list (items : List Json)
  | record (fields : List (String × Json))
deriving Inhabited

namespace Json

/-! ## Writing values -/

def nat (n : Nat) : Json := .int n

def strings (ss : List String) : Json := .list (ss.map .text)

def option {α : Type} (encode : α → Json) : Option α → Json
  | none => .null
  | some a => encode a

def listOf {α : Type} (encode : α → Json) (as : List α) : Json := .list (as.map encode)

/-! ## Reading values -/

def asText? : Json → Option String
  | .text s => some s
  | _ => none

def asBool? : Json → Option Bool
  | .bool b => some b
  | _ => none

def asInt? : Json → Option Int
  | .int n => some n
  | _ => none

def asNat? (largest : Nat) : Json → Option Nat
  | .int (.ofNat n) => if n ≤ largest then some n else none
  | _ => none

def asUInt32? (j : Json) : Option UInt32 := (j.asNat? (UInt32.size - 1)).map UInt32.ofNat

def asUInt64? (j : Json) : Option UInt64 := (j.asNat? (UInt64.size - 1)).map UInt64.ofNat

def asInt32? (j : Json) : Option Int32 :=
  (j.asInt?.filter fun i => -0x80000000 ≤ i && i < 0x80000000).map Int32.ofInt

/-- A whole number stands for the fraction of the same value. -/
def asFloat? : Json → Option Float
  | .int (.ofNat n) => some (Float.ofNat n)
  | .int (.negSucc n) => some (-Float.ofNat (n + 1))
  | .float x => some x
  | _ => none

def asList? {α : Type} (decode : Json → Option α) : Json → Option (List α)
  | .list items => items.mapM decode
  | _ => none

/-- `null` stands for a value that is not there. -/
def asOption? {α : Type} (decode : Json → Option α) : Json → Option (Option α)
  | .null => some none
  | j => (decode j).map some

/-! ## Records -/

/-- The values of a field, one for each time that it is written. -/
def valuesOf (name : String) (fields : List (String × Json)) : List Json :=
  (fields.filter (·.1 == name)).map (·.2)

/-- The value of a field that is written at most once; `none` if it is written again. -/
def single? (name : String) (fields : List (String × Json)) : Option (Option Json) :=
  match valuesOf name fields with
  | [] => some none
  | [v] => some (some v)
  | _ => none

/-- The values of the named fields in the order of the names. -/
def fields? (names : List String) : Json → Option (List (Option Json))
  | .record fields => names.mapM (single? · fields)
  | .list items => if items.length = names.length then some (items.map some) else none
  | _ => none

def required {α : Type} (decode : Json → Option α) (field : Option Json) : Option α :=
  field.bind decode

/-- A field that may be left out. -/
def optional {α : Type} (decode : Json → Option α) : Option Json → Option (Option α)
  | none => some none
  | some j => asOption? decode j

/-- A choice is written as its name, or as a record whose one field is the name. -/
def choice? : Json → Option (String × Option Json)
  | .text name => some (name, none)
  | .record [(name, v)] => some (name, some v)
  | _ => none

/-- The content of a choice that has none. -/
def isNothing : Option Json → Bool
  | none => true
  | some .null => true
  | _ => false

/-- Inside an instruction an empty record counts as nothing, too. -/
def isUnit : Option Json → Bool
  | some (.record []) => true
  | content => isNothing content

end Json

end Tabletop
