import Tabletop.Event
import Tabletop.Script.Directive
import Tabletop.Script.Lines

/-!
# Scripts

A script is read one logical line after the other. Blank lines and comments count for nothing.
`Buffers` holds what the lines so far have left open: the rows of a height block, the text of a
`HEIGHT` directive.

* `feedLine` is one line that counts, `feed` any line, `feedAll` all lines with what is open after
  them.
* `parse` gives the instructions of a script and the events on the way. A line that is no directive
  is reported and passed over; it does not close an open `HEIGHT` directive.
-/

namespace Tabletop.Script

open Text

structure Buffers where
  /-- The rows since `HEIGHT_START`. -/
  block : Option (List String)
  /-- The text of an open `HEIGHT` directive. -/
  heights : Option String
deriving DecidableEq

/-- What reading leaves behind: instructions and events, each in order. -/
structure Output where
  instructions : List Instruction
  events : List Event
deriving DecidableEq

namespace Output

def empty : Output := ⟨[], []⟩

def append (a b : Output) : Output :=
  ⟨a.instructions ++ b.instructions, a.events ++ b.events⟩

end Output

/-! ## Lines -/

def isComment (line : List Char) : Bool :=
  line.head? == some '#' || ['/', '/'].isPrefixOf line

def isBlockEnd (line : List Char) : Bool :=
  let word := line.map Char.toUpper
  word == "HEIGHT_END".toList || word == "END_HEIGHT".toList

namespace Buffers

def shut : Buffers := ⟨none, none⟩

def closeBlock (held : Buffers) : List Instruction :=
  match held.block with
  | none => []
  | some rows => [.heightRows rows]

/-- A `HEIGHT` directive without text makes no instruction. -/
def closeHeights (held : Buffers) : List Instruction :=
  match held.heights with
  | none => []
  | some text => if (trim text.toList).isEmpty then [] else [.heightRaw text]

end Buffers

/-- A line outside a block that does not go on with heights. -/
def feedDirective (base : RowBase) (held : Buffers) (n : Nat) (line : List Char) :
    Buffers × Output :=
  match Directive.read? base line with
  | none => (held, ⟨[], [.miss n (String.ofList line)]⟩)
  | some reading =>
    let closed := held.closeHeights
    let dropped := reading.dropped.map (Event.dropped n)
    match reading.directive with
    | none => ({ held with heights := none }, ⟨closed, dropped⟩)
    | some (.emit instruction) => ({ held with heights := none }, ⟨closed ++ [instruction], dropped⟩)
    | some (.openHeights text) => ({ held with heights := some text }, ⟨closed, dropped⟩)
    | some .startBlock => (⟨some [], none⟩, ⟨closed, dropped⟩)
    | some .endBlock =>
      ({ held with heights := none }, ⟨closed, dropped ++ [.miss n (String.ofList line)]⟩)

/-- The line with number `n`, without the blanks around it. -/
def feedLine (base : RowBase) (held : Buffers) (n : Nat) (line : List Char) : Buffers × Output :=
  match held.block, held.heights with
  | some rows, _ =>
    if isBlockEnd line then ({ held with block := none }, ⟨held.closeBlock, []⟩)
    else ({ held with block := some (rows ++ [String.ofList line]) }, .empty)
  | none, some text =>
    if isHeightPairs line then
      ({ held with heights := some (text ++ " " ++ String.ofList line) }, .empty)
    else feedDirective base held n line
  | none, none => feedDirective base held n line

def counts (line : List Char) : Bool := !(line.isEmpty || isComment line)

def feed (base : RowBase) (held : Buffers) (n : Nat) (text : List Char) : Buffers × Output :=
  let line := trim text
  if counts line then feedLine base held n line else (held, .empty)

/-! ## Scripts -/

def feedAll (base : RowBase) (held : Buffers) : List (Nat × List Char) → Buffers × Output
  | [] => (held, .empty)
  | (n, text) :: rest =>
    let (held, here) := feed base held n text
    let (last, after) := feedAll base held rest
    (last, here.append after)

def parse (base : RowBase) (source : String) : Output :=
  let (held, output) := feedAll base .shut (logicalLines source.toList)
  output.append ⟨held.closeBlock ++ held.closeHeights, []⟩

end Tabletop.Script
