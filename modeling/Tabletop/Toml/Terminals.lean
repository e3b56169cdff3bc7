/-!
# The smallest parts of TOML texts

A reader takes what it recognises from the front of a text and gives the rest; `none` means that the
text is malformed there.

* `skip` leaves out blanks, which are spaces and tabs.
* `lineEnd?` takes the end of a line, with a comment before it.
* `skipLines?` leaves out blanks, comments and line ends between the items of a list.
-/

namespace Tabletop.Toml

abbrev Reader (α : Type) := List Char → Option (α × List Char)

def isGap (c : Char) : Bool := c == ' ' || c == '\t'

def skip (cs : List Char) : List Char := cs.dropWhile isGap

/-- No control character but the tab. -/
def isPlain (c : Char) : Bool := c == '\t' || (32 ≤ c.toNat && c.toNat != 127)

def newline? : List Char → Option (List Char)
  | '\n' :: rest => some rest
  | '\r' :: '\n' :: rest => some rest
  | _ => none

/-- The text after a comment, if there is one. -/
def skipComment : List Char → List Char
  | '#' :: rest => rest.dropWhile isPlain
  | cs => cs

/-- A line feed or the end of the text. -/
def lineFeed? : List Char → Option (List Char)
  | [] => some []
  | cs => newline? cs

/-- The rest of a line that holds nothing more than a comment. -/
def lineEnd? (cs : List Char) : Option (List Char) := lineFeed? (skipComment (skip cs))

/-- Blanks, comments and line ends; their number is at most the `fuel`. -/
def skipLinesWith : (fuel : Nat) → List Char → Option (List Char)
  | 0, _ => none
  | fuel + 1, cs =>
    match skip cs with
    | '#' :: rest => do
      let rest ← newline? (rest.dropWhile isPlain)
      skipLinesWith fuel rest
    | '\n' :: rest => skipLinesWith fuel rest
    | '\r' :: '\n' :: rest => skipLinesWith fuel rest
    | '\r' :: _ => none
    | rest => some rest

def skipLines? (cs : List Char) : Option (List Char) := skipLinesWith (cs.length + 1) cs

/-- The rest after a given front. -/
def expect? (front cs : List Char) : Option (List Char) :=
  if front.isPrefixOf cs then some (cs.drop front.length) else none

end Tabletop.Toml
