import Tabletop.Decimal.Shortest
import Tabletop.Json
import Tabletop.Json.Quoted

/-!
# Writing JSON texts

* `compact` writes a value without any white space.
* `pretty` writes each item and each field on a line of its own, indented by two blanks; an empty
  list or record stays on its line.

A number that is not finite is written as `null`.
-/

namespace Tabletop.Json

/-- Fractions are written out from a hundred-thousandth up to sixteen digits before the point, with
at least one digit after it, and otherwise with an exponent. -/
def numberLayout : Decimal.Layout where
  positional e := -5 ≤ e && e ≤ 15
  pointZero := true
  tie := .toEven
  nan := "null"
  infinity := "null"
  negativeInfinity := "null"

def scalarText : Json → List Char
  | .null => "null".toList
  | .bool b => (if b then "true" else "false").toList
  | .int n => (toString n).toList
  | .float x => (numberLayout.write x).toList
  | .text s => quote s
  | .list _ => []
  | .record _ => []

/-! ## Compact -/

mutual

def compactChars : Json → List Char
  | .list items => '[' :: compactItems items
  | .record fields => '\x7b' :: compactFields fields
  | v => scalarText v

def compactItems : List Json → List Char
  | [] => [']']
  | [v] => compactChars v ++ [']']
  | v :: rest => compactChars v ++ ',' :: compactItems rest

def compactFields : List (String × Json) → List Char
  | [] => ['\x7d']
  | [(k, v)] => quote k ++ ':' :: (compactChars v ++ ['\x7d'])
  | (k, v) :: rest => quote k ++ ':' :: (compactChars v ++ ',' :: compactFields rest)

end

def compact (v : Json) : String := String.ofList (compactChars v)

/-! ## Pretty -/

def newLine (depth : Nat) : List Char := '\n' :: List.replicate (2 * depth) ' '

mutual

def prettyChars (depth : Nat) : Json → List Char
  | .list [] => ['[', ']']
  | .list items => '[' :: (newLine (depth + 1) ++ prettyItems depth items)
  | .record [] => ['\x7b', '\x7d']
  | .record fields => '\x7b' :: (newLine (depth + 1) ++ prettyFields depth fields)
  | v => scalarText v

def prettyItems (depth : Nat) : List Json → List Char
  | [] => [']']
  | [v] => prettyChars (depth + 1) v ++ newLine depth ++ [']']
  | v :: rest =>
    prettyChars (depth + 1) v ++ ',' :: (newLine (depth + 1) ++ prettyItems depth rest)

def prettyFields (depth : Nat) : List (String × Json) → List Char
  | [] => ['\x7d']
  | [(k, v)] =>
    quote k ++ ':' :: ' ' :: (prettyChars (depth + 1) v ++ newLine depth ++ ['\x7d'])
  | (k, v) :: rest =>
    quote k ++ ':' :: ' ' :: (prettyChars (depth + 1) v ++ ',' ::
      (newLine (depth + 1) ++ prettyFields depth rest))

end

def pretty (v : Json) : String := String.ofList (prettyChars 0 v)

end Tabletop.Json
