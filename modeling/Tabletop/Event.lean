/-!
# Events

What reading a script and applying instructions report: a line that was not understood, an entry
that was left out, an instruction that was applied or skipped, and notes in free text.
-/

namespace Tabletop

inductive Event where
  | miss (line : Nat) (text : String)
  | dropped (line : Nat) (entry : String)
  | applied (tag : String)
  | skipped (tag reason : String)
  | note (text : String)
deriving DecidableEq, Repr

namespace Event

def missedLine? : Event → Option Nat
  | .miss line _ => some line
  | _ => none

def skipReason? : Event → Option String
  | .skipped _ reason => some reason
  | _ => none

end Event

end Tabletop
