import Tabletop.Text.Letters
import Tabletop.Text.Pieces
import Tabletop.Text.Blank

/-!
# Commands of the table

A line that begins with a colon is a command, and every other line is script text.

* `Usage` lists the commands with their arguments; the help, the completion and the hints are made
  from it.
* `Line.read` tells what a line is.
-/

namespace Tabletop.Console

/-! ## Usage -/

structure Usage where
  name : String
  arguments : String
  summary : String

namespace Usage

def all : List Usage :=
  [⟨":tick", "[seconds]", "advance animations"⟩,
    ⟨":state", "", "show the board, tokens and turn"⟩,
    ⟨":suggest", "", "list suggestions for the active combatant"⟩,
    ⟨":pick", "<n>", "carry out suggestion n"⟩,
    ⟨":next", "", "end the current turn"⟩,
    ⟨":load", "<file>", "run a script file"⟩,
    ⟨":dump", "", "print the world state as JSON"⟩,
    ⟨":help", "", "this text"⟩,
    ⟨":quit", "", "leave"⟩]

/-- The summaries of the commands stand in one column. -/
def line (u : Usage) : String :=
  let head := u.name ++ " " ++ u.arguments
  "  " ++ head ++ String.ofList (List.replicate (17 - head.length) ' ') ++ u.summary

def help : String :=
  "\n".intercalate
    ("Script lines (PLACE, MOVE, ATTACK, ...) are applied as one batch." :: all.map line)

end Usage

/-! ## Lines -/

inductive Command where
  | quit
  | help
  | tick (seconds : String)
  | state
  | suggest
  | pick (number : String)
  | next
  | load (path : String)
  | dump
  | unknown (name : String)
deriving DecidableEq

namespace Command

/-- The command of a name in lower case, with its argument. -/
def ofName (name argument : String) : Command :=
  match name with
  | "quit" | "q" | "exit" => .quit
  | "help" | "h" => .help
  | "tick" => .tick argument
  | "state" => .state
  | "suggest" => .suggest
  | "pick" => .pick argument
  | "next" => .next
  | "load" => .load argument
  | "dump" => .dump
  | _ => .unknown name

/-- What stands after the colon: a name in any case, and after a blank the argument. -/
def read (cs : List Char) : Command :=
  let (name, argument) := (Text.cut Text.isBlank cs).getD (cs, [])
  ofName (String.ofList (Text.foldAscii name)) (String.ofList (Text.trim argument))

end Command

inductive Line where
  | empty
  | command (c : Command)
  | script (source : String)
deriving DecidableEq

def Line.read (line : String) : Line :=
  match Text.trim line.toList with
  | [] => .empty
  | ':' :: rest => .command (.read rest)
  | _ => .script line

end Tabletop.Console
