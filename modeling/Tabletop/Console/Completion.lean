import Tabletop.Console.Command

/-!
# Completion

While a line is typed, the word before the cursor is completed: to token ids among the operands of a
directive about tokens, and otherwise to commands and directives. Places in a line are counted in
bytes, as the terminal counts them.

* `complete?` gives the place where the completed piece begins, and the terms that can stand there.
  It has no answer when the cursor is inside a character, or when the word would begin inside one.
* `hint?` shows the arguments of a command that has been typed in full.
-/

namespace Tabletop.Console

/-- The directives that a line may begin with. -/
def directives : List String :=
  ["ATTACK", "BACKGROUND", "BOARD", "CLEAR ALL", "CLEAR TOKENS", "CREATE", "EFFECT", "GRID",
    "HEIGHT", "HEIGHT_END", "HEIGHT_RANDOM", "HEIGHT_START", "INITIATIVE", "MAP", "MOVE", "PLACE",
    "REMOVE", "REMOVE HEIGHTMAP", "RESET", "ROADS", "SPRITE DEF", "STATE"]

/-- The directives whose operands are token ids. -/
def tokenDirectives : List String := ["ATTACK", "INITIATIVE", "MOVE", "REMOVE"]

/-! ## Places in a line -/

def bytes (cs : List Char) : Nat := (String.ofList cs).utf8ByteSize

/-- The characters of the first bytes; `none` if the last of them is cut, or if there are too few. -/
def takeBytes? : Nat → List Char → Option (List Char)
  | 0, _ => some []
  | _ + 1, [] => none
  | n + 1, c :: rest =>
    if c.utf8Size ≤ n + 1 then (takeBytes? (n + 1 - c.utf8Size) rest).map (c :: ·) else none

def isWordEnd (c : Char) : Bool := Text.isBlank c || c == ',' || c == '>'

/-- The last word of a text and the number of bytes before it. A word begins one byte after the mark
that ends the word before it, so a mark of several bytes leaves no word. -/
def lastWord? (cs : List Char) : Option (Nat × List Char) :=
  let word := (cs.reverse.takeWhile (!isWordEnd ·)).reverse
  let before := cs.take (cs.length - word.length)
  match before.getLast? with
  | none => some (0, word)
  | some mark => if mark.utf8Size = 1 then some (bytes before, word) else none

/-! ## Completion -/

structure Completion where
  start : Nat
  terms : List String
deriving DecidableEq

/-- Completion of what has been typed from the first word up to the cursor. -/
def completeTyped? (ids : List String) (start : Nat) (typed : List Char) : Option Completion :=
  let upper := Text.upper typed
  if typed.isEmpty then some ⟨start, []⟩
  else if tokenDirectives.contains (String.ofList ((Text.words upper).headD [])) &&
      typed.any Text.isBlank then do
    let (offset, word) ← lastWord? typed
    let word := Text.lower word
    return ⟨start + offset, ids.filter fun id => word.isPrefixOf (Text.lower id.toList)⟩
  else
    let terms := Usage.all.map (·.name) ++ directives
    some ⟨start, terms.filter fun term => upper.isPrefixOf (Text.upper term.toList)⟩

/-- The completion of a line with the cursor at a place. -/
def complete? (ids : List String) (line : String) (place : Nat) : Option Completion := do
  let front ← takeBytes? place line.toList
  let typed := Text.trimStart front
  completeTyped? ids (place - bytes typed) typed

/-! ## Hints -/

/-- The arguments of a command, with a blank before them unless it is there already. -/
def hint? (line : String) : Option String := do
  let typed := Text.trimStart line.toList
  let name := Text.trimEnd typed
  let usage ← Usage.all.find? fun u =>
    !u.arguments.isEmpty && Text.sameFolded u.name (String.ofList name)
  return (if name.length < typed.length then "" else " ") ++ usage.arguments

end Tabletop.Console
