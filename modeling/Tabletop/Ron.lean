import Tabletop.Decimal.Shortest
import Tabletop.Text.Visible

/-!
# Object notation with parentheses

A text format for typed values: a structure stands in parentheses, a list in brackets, a map in
braces, and a choice is its name with its content in parentheses.

* `Ron` holds a value as this format sees it.
* `Ron.pretty` writes each field and item on a line of its own, indented by four blanks and followed
  by a comma.
-/

namespace Tabletop

inductive Ron where
  /-- A number or a name. -/
  | bare (s : String)
  | text (s : String)
  | choice (name : String) (content : Ron)
  | list (items : List Ron)
  | struct (fields : List (String × Ron))
  | map (entries : List (String × Ron))
deriving Inhabited

namespace Ron

/-! ## Values -/

/-- Fractions are written out, with at least one digit after the point. -/
def numberLayout : Decimal.Layout where
  positional _ := true
  pointZero := true
  tie := .away
  nan := "NaN"
  infinity := "inf"
  negativeInfinity := "-inf"

def nat (n : Nat) : Ron := .bare (toString n)

def int (n : Int) : Ron := .bare (toString n)

def float (x : Float) : Ron := .bare (numberLayout.write x)

def option {α : Type} (encode : α → Ron) : Option α → Ron
  | none => .bare "None"
  | some a => .choice "Some" (encode a)

def listOf {α : Type} (encode : α → Ron) (as : List α) : Ron := .list (as.map encode)

/-! ## Quoted texts -/

def escapeChar (c : Char) : List Char :=
  if c.toNat = 0 then ['\\', '0']
  else if c = '\t' then ['\\', 't']
  else if c = '\r' then ['\\', 'r']
  else if c = '\n' then ['\\', 'n']
  else if c = '\\' ∨ c = '"' ∨ c = '\'' then ['\\', c]
  else if Text.isVisible c then [c]
  else "\\u\x7b".toList ++ Nat.toDigits 16 c.toNat ++ ['\x7d']

def quote (s : String) : List Char := '"' :: (s.toList.flatMap escapeChar ++ ['"'])

/-! ## Layout -/

def newLine (depth : Nat) : List Char := '\n' :: List.replicate (4 * depth) ' '

mutual

def prettyChars (depth : Nat) : Ron → List Char
  | .bare s => s.toList
  | .text s => quote s
  | .choice name content => name.toList ++ '(' :: (prettyChars depth content ++ [')'])
  | .list [] => ['[', ']']
  | .list items => '[' :: (prettyItems (depth + 1) items ++ newLine depth ++ [']'])
  | .struct [] => ['(', ')']
  | .struct fields => '(' :: (prettyFields (depth + 1) fields ++ newLine depth ++ [')'])
  | .map [] => ['\x7b', '\x7d']
  | .map entries => '\x7b' :: (prettyEntries (depth + 1) entries ++ newLine depth ++ ['\x7d'])

def prettyItems (depth : Nat) : List Ron → List Char
  | [] => []
  | v :: rest => newLine depth ++ prettyChars depth v ++ ',' :: prettyItems depth rest

def prettyFields (depth : Nat) : List (String × Ron) → List Char
  | [] => []
  | (k, v) :: rest =>
    newLine depth ++ k.toList ++ ':' :: ' ' :: (prettyChars depth v ++ ',' :: prettyFields depth rest)

def prettyEntries (depth : Nat) : List (String × Ron) → List Char
  | [] => []
  | (k, v) :: rest =>
    newLine depth ++ quote k ++ ':' :: ' ' :: (prettyChars depth v ++ ',' :: prettyEntries depth rest)

end

def pretty (v : Ron) : String := String.ofList (prettyChars 0 v)

end Ron

end Tabletop
