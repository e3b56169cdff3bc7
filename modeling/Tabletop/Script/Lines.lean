import Tabletop.Text.Blank

/-!
# Logical lines

A physical line that ends in a backslash goes on in the next one. `logicalLines` joins such lines
with one blank and gives every logical line the number of the physical line that it begins on,
counted from one.
-/

namespace Tabletop.Script

open Text

/-- The content of a physical line, and whether it goes on. -/
def splitContinuation (line : List Char) : List Char × Bool :=
  match (trimEnd line).reverse with
  | '\\' :: before => (trim before.reverse, true)
  | before => (trim before.reverse, false)

def append (joined piece : List Char) : List Char :=
  if joined.isEmpty then piece else joined ++ ' ' :: piece

/-- Joins the lines from number `n` on. A logical line that is open has its number and what it
holds so far. -/
def joinFrom : (opened : Option (Nat × List Char)) → (n : Nat) → List (List Char) →
    List (Nat × List Char)
  | none, _, [] => []
  | some line, _, [] => [line]
  | opened, n, line :: rest =>
    let (start, joined) := opened.getD (n, [])
    let (piece, goesOn) := splitContinuation line
    let joined := append joined piece
    if goesOn then joinFrom (some (start, joined)) (n + 1) rest
    else (start, joined) :: joinFrom none (n + 1) rest

def logicalLines (source : List Char) : List (Nat × List Char) := joinFrom none 1 (lines source)

end Tabletop.Script
