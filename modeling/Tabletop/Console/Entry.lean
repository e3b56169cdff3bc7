import Tabletop.Text.Blank
import Tabletop.Text.Letters
import Tabletop.Text.Pieces

/-!
# Entries of several lines

An entry goes over several lines when a block of heights or a continuation is open, so that all of it
is one batch.

* `needsMore` tells whether an entry is unfinished.
* `entries` divides what has been typed into entries.
-/

namespace Tabletop.Console

/-! ## Unfinished entries -/

/-- Whether a block of heights is open after a line. Only the first word of the line counts. -/
def blockAfter (isOpen : Bool) (line : List Char) : Bool :=
  let word := String.ofList (Text.upper ((Text.words line).headD []))
  if word = "HEIGHT_START" then true
  else if word = "HEIGHT_END" ∨ word = "END_HEIGHT" then false
  else isOpen

def needsMore (entry : List Char) : Bool :=
  (Text.trimEnd entry).getLast? == some '\\' || (Text.lines entry).foldl blockAfter false

/-! ## Reading entries -/

/-- The lines of a text with their line ends. -/
def typedLines : List Char → List (List Char)
  | [] => []
  | '\n' :: rest => ['\n'] :: typedLines rest
  | c :: rest =>
    match typedLines rest with
    | [] => [[c]]
    | line :: others => (c :: line) :: others

/-- An entry without the line ends behind it. -/
def withoutLineEnds (cs : List Char) : List Char :=
  (cs.reverse.dropWhile fun c => c == '\n' || c == '\r').reverse

/-- Entries from lines, where some lines of the first entry have been read already. What is
unfinished at the end of the input is an entry, too. -/
def entriesFrom (before : List Char) : List (List Char) → List String
  | [] => if before.isEmpty then [] else [String.ofList (withoutLineEnds before)]
  | line :: rest =>
    let entry := before ++ line
    if needsMore entry then entriesFrom entry rest
    else String.ofList (withoutLineEnds entry) :: entriesFrom [] rest

def entries (input : String) : List String := entriesFrom [] (typedLines input.toList)

end Tabletop.Console
