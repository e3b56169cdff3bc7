import Tabletop.Archetype
import Tabletop.Instruction
import Tabletop.Message
import Tabletop.TokenId

/-!
# Checking a list of instructions

The check follows which codes are declared, which tokens are live and how large the board is, and
reports what is known to be skipped or impossible. It builds no world.

* `Lint.step` is one instruction: what it does to the `Ledger`, and what is wrong with it.
* `Lint.check` is a whole list, from the empty ledger.
-/

namespace Tabletop.Lint

inductive Fault where
  | duplicateSprite (code : String)
  | unknownDefinition (code : String)
  | unknownToken (id : String)
  | emptyBoard (cols rows : UInt32)
  | emptyCell
  | outside (cell : Cell) (cols rows : UInt32)
  | noDefinition
  | noBoard
  | unsampleable (min max : Float)
deriving DecidableEq

/-- A fault, and where it was found: the tag of the instruction and its number in the list, counted
from one. -/
structure Finding where
  number : Nat
  tag : String
  fault : Fault
deriving DecidableEq

namespace Finding

def place (f : Finding) : String := s!"instruction {f.number} '{f.tag}'"

def message (f : Finding) : String :=
  let missing := fun kind id : String => s!"missing {kind} '{id}' ({f.place})"
  let invalid := fun reason : String => s!"invalid value ({f.place}: {reason})"
  match f.fault with
  | .duplicateSprite code => s!"duplicate sprite id '{code}'"
  | .unknownDefinition code => missing "definition" code
  | .unknownToken id => missing "token" id
  | .emptyBoard cols rows => invalid s!"board must be at least 1x1, got {cols.toNat}x{rows.toNat}"
  | .emptyCell => invalid "cell size must be positive"
  | .outside cell cols rows =>
    invalid s!"cell {cell.key} lies outside the {cols.toNat}x{rows.toNat} board"
  | .noDefinition => invalid "no code, def, template or type attribute"
  | .noBoard => invalid "'@ ALL' before any BOARD"
  | .unsampleable low high =>
    let ends := Message.number low ++ ".." ++ Message.number high
    invalid s!"height range {ends} cannot be sampled"

end Finding

/-! ## The ledger -/

/-- Declared codes in lower case, live tokens, and the board if there is one. -/
structure Ledger where
  sprites : List String
  live : List TokenId
  board : Option (UInt32 × UInt32)
deriving DecidableEq

namespace Ledger

def empty : Ledger := ⟨[], [], none⟩

def declares (l : Ledger) (code : String) : Bool := l.sprites.contains (Text.lowered code)

def knows (l : Ledger) (code : String) : Bool :=
  l.declares code || (Archetype.find? code).isSome

/-- The live tokens after `count` new ones with a stem. -/
def mintOn (stem : String) : (count : Nat) → List TokenId → List TokenId
  | 0, live => live
  | count + 1, live => mintOn stem count (live ++ [TokenId.next stem live])

def mint (l : Ledger) (stem : String) (count : Nat) : Ledger :=
  { l with live := mintOn stem count l.live }

def hasToken (l : Ledger) (id : String) : Bool := l.live.any fun t => t.text == id

def unknownTokens (l : Ledger) (ids : List String) : List Fault :=
  (ids.filter (! l.hasToken ·)).map .unknownToken

/-- A board at least as large as the rows; it stays away while one of its sides is zero. -/
def grow (l : Ledger) (cols rows : UInt32) : Ledger :=
  let (oldCols, oldRows) := l.board.getD (0, 0)
  let cols := max oldCols cols
  let rows := max oldRows rows
  if 0 < cols ∧ 0 < rows then { l with board := some (cols, rows) } else l

def outside? (l : Ledger) (cells : List Cell) : List Fault :=
  match l.board with
  | none => []
  | some (cols, rows) =>
    match cells.find? fun c => cols ≤ c.col || rows ≤ c.row with
    | none => []
    | some cell => [.outside cell cols rows]

end Ledger

/-! ## Instructions -/

def create (l : Ledger) (attrs : Attributes) (target : Target) : Ledger × List Fault :=
  match attrs.reference? with
  | none => (l, [.noDefinition])
  | some reference =>
    if !l.knows reference then (l, [.unknownDefinition reference])
    else
      let stem := attrs.stem?.getD reference
      match target, l.board with
      | .cells cells, _ => (l.mint stem cells.length, [])
      | .all, some (cols, rows) => (l.mint stem (cols.toNat * rows.toNat), [])
      | .all, none => (l, [.noBoard])

def step (l : Ledger) : Instruction → Ledger × List Fault
  | .board cols rows =>
    ({ l with board := some (cols, rows) },
      if cols = 0 ∨ rows = 0 then [.emptyBoard cols rows] else [])
  | .grid _ size => (l, if size = 0 then [.emptyCell] else [])
  | .spriteDef code _ =>
    if l.declares code then (l, [.duplicateSprite code])
    else ({ l with sprites := l.sprites ++ [Text.lowered code] }, [])
  | .place code cells =>
    if l.knows code then (l.mint code cells.length, l.outside? cells)
    else (l, [.unknownDefinition code])
  | .create attrs target => create l attrs target
  | .heightRows rows =>
    let (cols, rows) := Instruction.rowsExtent rows
    (l.grow cols rows, [])
  | .heightRandom _ min max =>
    let (low, high) := (min.value, max.value)
    (l, if low > high || !(high - low).isFinite then [.unsampleable low high] else [])
  | .move id _ => (l, l.unknownTokens [id])
  | .attack attacker target .. => (l, l.unknownTokens [attacker, target])
  | .state attrs => (l, l.unknownTokens (attrs.first? ["id", "token"]).toList)
  | .remove id => ({ l with live := l.live.filter (·.text != id) }, l.unknownTokens [id])
  | .initiative _ ids => (l, l.unknownTokens ids)
  | .initiativeSet entries => (l, l.unknownTokens (entries.map (·.id)))
  | .clear .tokens => ({ l with live := [] }, [])
  | .clear .all | .reset => (.empty, [])
  | _ => (l, [])

/-- The instructions from number `n` on. -/
def checkFrom (l : Ledger) (n : Nat) : List Instruction → List Finding
  | [] => []
  | i :: rest =>
    let (l, faults) := step l i
    faults.map (⟨n, i.tag, ·⟩) ++ checkFrom l (n + 1) rest

def check (instructions : List Instruction) : List Finding := checkFrom .empty 1 instructions

end Tabletop.Lint
