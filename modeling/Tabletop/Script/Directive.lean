import Tabletop.Decimal.Reading
import Tabletop.Instruction
import Tabletop.Script.Form

/-!
# Directives

A form becomes an instruction when its operands can be read, or it opens or closes a run of height
lines.

* `Directive.read?` is `none` for a line that is no directive, be it by its form or because a number
  does not have the bits that it needs.
* An entry that cannot be read is left out and named in `Reading.dropped`. A directive whose
  operands were all left out asks for nothing.
-/

namespace Tabletop.Script

open Decimal

/-- What a directive asks for. -/
inductive Directive where
  | emit (instruction : Instruction)
  | openHeights (text : String)
  | startBlock
  | endBlock
deriving DecidableEq

structure Reading where
  dropped : List String
  directive : Option Directive
deriving DecidableEq

namespace Directive

/-- Cell size in pixels where `GRID` does not give one. -/
def defaultSize : UInt32 := 64

/-- The range of `HEIGHT_RANDOM` where it is not given. -/
def defaultLow : Bound := .number 0.0
def defaultHigh : Bound := .number 3.0

/-! ## Operands -/

/-- One layer of quotation marks taken off; double ones are looked for first. -/
def unquoted (cs : List Char) : List Char :=
  let text := Text.trim cs
  match text with
  | first :: rest =>
    if (first = '"' ∨ first = '\'') ∧ rest.getLast? = some first then rest.dropLast else text
  | [] => text

/-- Keys in lower case; the later of two equal keys counts. -/
def attributesOf (pairs : List (List Char × List Char)) : Attributes :=
  .ofList (pairs.map fun (key, value) =>
    (String.ofList (Text.foldAscii key), String.ofList (unquoted value)))

/-- The cells that can be read, and the entries that cannot. -/
def cellsOf (base : RowBase) : List (List Char) → List Cell × List String
  | [] => ([], [])
  | item :: rest =>
    let (cells, dropped) := cellsOf base rest
    match Cell.ofReferenceChars? base item with
    | some cell => (cell :: cells, dropped)
    | none => (cells, String.ofList item :: dropped)

/-- A number among the attributes, or the entry that is left out because it is none. -/
def numberAt {α : Type} (read? : List Char → Option α) (attrs : Attributes) (key : String) :
    Option α × List String :=
  match attrs.get? key with
  | none => (none, [])
  | some raw =>
    match read? raw.toList with
    | some n => (some n, [])
    | none => (none, [key ++ "=" ++ raw])

/-- The last speed that is given. -/
def speedOf (timings : List Timing) : Option Float :=
  (timings.filterMap fun
    | .speed value => readFloat? value
    | .duration _ => none).getLast?

def durationOf (timings : List Timing) : Option Float :=
  (timings.filterMap fun
    | .duration value => readFloat? value
    | .speed _ => none).getLast?

def emitOnly (instruction : Instruction) : Reading := ⟨[], some (.emit instruction)⟩

/-! ## Forms -/

def randomHeights (attrs : Attributes) : Reading :=
  let (seed, noSeed) := numberAt readUInt64? attrs "seed"
  let (low, noLow) := numberAt Bound.read? attrs "min"
  let (high, noHigh) := numberAt Bound.read? attrs "max"
  ⟨noSeed ++ noLow ++ noHigh,
    some (.emit (.heightRandom seed (low.getD defaultLow) (high.getD defaultHigh)))⟩

def initiativeEntry? (entry : List Char × List Char) : Option InitiativeEntry :=
  (readInt32? entry.2).map fun value => ⟨String.ofList entry.1, value⟩

/-- What a form asks for; `none` if one of its numbers is out of range. -/
def ofForm? (base : RowBase) : Form → Option Reading
  | .background reference => some (emitOnly (.background (String.ofList (unquoted reference))))
  | .map id => some (emitOnly (.map (String.ofList id)))
  | .initiativeSet entries => do
    return emitOnly (.initiativeSet (← entries.mapM initiativeEntry?))
  | .initiative none ids => some (emitOnly (.initiative none (ids.map String.ofList)))
  | .initiative (some value) ids => do
    return emitOnly (.initiative (some (← readInt32? value)) (ids.map String.ofList))
  | .grid hex size => do
    let size ← match size with
      | some digits => readUInt32? digits
      | none => some defaultSize
    return emitOnly (.grid (if hex then .hex else .square) size)
  | .board cols rows => do
    return emitOnly (.board (← readUInt32? cols) (← readUInt32? rows))
  | .spriteDef code attrs =>
    some (emitOnly (.spriteDef (String.ofList code) (attributesOf attrs)))
  | .place code items =>
    let (cells, dropped) := cellsOf base items
    some ⟨dropped, some (.emit (.place (String.ofList code) cells))⟩
  | .create attrs none => some (emitOnly (.create (attributesOf attrs) .all))
  | .create attrs (some items) =>
    let (cells, dropped) := cellsOf base items
    some ⟨dropped, some (.emit (.create (attributesOf attrs) (.cells cells)))⟩
  | .heightRandom attrs => some (randomHeights (attributesOf attrs))
  | .heightStart => some ⟨[], some .startBlock⟩
  | .heightEnd => some ⟨[], some .endBlock⟩
  | .height text => some ⟨[], some (.openHeights (String.ofList (Text.trim text)))⟩
  | .roads items =>
    let (cells, dropped) := cellsOf base items
    some ⟨dropped, some (.emit (.roads cells))⟩
  | .state attrs => some (emitOnly (.state (attributesOf attrs)))
  | .move id items =>
    let (cells, dropped) := cellsOf base items
    some ⟨dropped, (Route.ofCells? cells).map fun path => .emit (.move (String.ofList id) path)⟩
  | .attack attacker target magic timings =>
    some (emitOnly (.attack (String.ofList attacker) (String.ofList target)
      (if magic then .magic else .physical) (speedOf timings) (durationOf timings)))
  | .effect kind item timings =>
    match Cell.ofReferenceChars? base item with
    | some cell =>
      some (emitOnly (.effect (String.ofList kind) cell (durationOf timings) (speedOf timings)))
    | none => some ⟨[String.ofList item], none⟩
  | .removeHeightmap => some (emitOnly .removeHeightmap)
  | .remove id => some (emitOnly (.remove (String.ofList id)))
  | .clear all => some (emitOnly (.clear (if all then .all else .tokens)))
  | .reset => some (emitOnly .reset)

/-- The directive on a line. -/
def read? (base : RowBase) (line : List Char) : Option Reading := (Form.read? line).bind (ofForm? base)

end Directive

end Tabletop.Script
