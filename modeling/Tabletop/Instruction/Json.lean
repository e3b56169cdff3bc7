import Tabletop.Instruction
import Tabletop.Json.Printer
import Tabletop.Json.Reader

/-!
# Instructions as JSON

An instruction is a record with its tag in the field `type` and its operands in further fields.

* `toJson` writes an instruction; a value that is not given is written as `null`.
* `ofJson?` reads one. A value that may be missing may be left out, further fields are passed over,
  and an unknown tag gives `unrecognized`.
* `listText` and `ofListText?` do the same for a list of instructions as a text.
-/

namespace Tabletop

open Json

namespace Cell

def toJson (c : Cell) : Json := .text c.key

def ofJson? (j : Json) : Option Cell := j.asText?.bind ofKey?

end Cell

namespace Attributes

def toJson (attrs : Attributes) : Json := .record (attrs.entries.map fun (k, v) => (k, .text v))

def ofJson? : Json → Option Attributes
  | .record fields => do
    let pairs ← fields.mapM fun (k, v) => v.asText?.map (k, ·)
    return .ofList pairs
  | _ => none

end Attributes

namespace Target

def toJson : Target → Json
  | .cells cs => .record [("cells", listOf Cell.toJson cs)]
  | .all => .text "all"

def ofJson? (j : Json) : Option Target := do
  match ← choice? j with
  | ("cells", some v) => (v.asList? Cell.ofJson?).map .cells
  | ("all", content) => if isUnit content then some .all else none
  | _ => none

end Target

namespace Route

def toJson : Route → Json
  | .to cell => .record [("to", cell.toJson)]
  | .waypoints cs => .record [("waypoints", listOf Cell.toJson cs)]

def ofJson? (j : Json) : Option Route := do
  match ← choice? j with
  | ("to", some v) => (Cell.ofJson? v).map .to
  | ("waypoints", some v) => (v.asList? Cell.ofJson?).map .waypoints
  | _ => none

end Route

/-- A choice without content, by its name. -/
def namedChoice? {α : Type} (ofName? : String → Option α) (j : Json) : Option α := do
  let (name, content) ← choice? j
  if isUnit content then ofName? name else none

namespace CellHeight

def toJson (h : CellHeight) : Json := .record [("cell", h.cell.toJson), ("value", .float h.value)]

def ofJson? (j : Json) : Option CellHeight := do
  match ← fields? ["cell", "value"] j with
  | [cell, value] => return ⟨← required Cell.ofJson? cell, ← required asFloat? value⟩
  | _ => none

end CellHeight

namespace InitiativeEntry

def toJson (e : InitiativeEntry) : Json :=
  .record [("id", .text e.id), ("value", .int e.value.toInt)]

def ofJson? (j : Json) : Option InitiativeEntry := do
  match ← fields? ["id", "value"] j with
  | [id, value] => return ⟨← required asText? id, ← required asInt32? value⟩
  | _ => none

end InitiativeEntry

namespace Instruction

/-! ## Writing -/

/-- The operands with their names, in the order in which they are written. -/
def operands : Instruction → List (String × Json)
  | background reference => [("reference", .text reference)]
  | map id => [("id", .text id)]
  | initiative value ids =>
    [("value", option (fun v => .int v.toInt) value), ("ids", strings ids)]
  | initiativeSet entries => [("entries", listOf InitiativeEntry.toJson entries)]
  | grid kind size => [("grid", .text kind.name), ("size", nat size.toNat)]
  | board cols rows => [("cols", nat cols.toNat), ("rows", nat rows.toNat)]
  | spriteDef code attrs => [("code", .text code), ("attrs", attrs.toJson)]
  | place code cells => [("code", .text code), ("cells", listOf Cell.toJson cells)]
  | create attrs target => [("attrs", attrs.toJson), ("target", target.toJson)]
  | height cells => [("cells", listOf CellHeight.toJson cells)]
  | heightRaw raw => [("text", .text raw)]
  | heightRows rows => [("rows", strings rows)]
  | heightRandom seed min max =>
    [("seed", option (fun s => nat s.toNat) seed), ("min", .float min.value),
      ("max", .float max.value)]
  | roads cells => [("cells", listOf Cell.toJson cells)]
  | state attrs => [("attrs", attrs.toJson)]
  | move id path => [("id", .text id), ("path", path.toJson)]
  | attack attacker target kind speed duration =>
    [("attacker", .text attacker), ("target", .text target), ("kind", .text kind.name),
      ("speed", option .float speed), ("duration", option .float duration)]
  | effect kind cell duration speed =>
    [("kind", .text kind), ("at", cell.toJson), ("duration", option .float duration),
      ("speed", option .float speed)]
  | remove id => [("id", .text id)]
  | clear scope => [("scope", .text scope.name)]
  | removeHeightmap | reset | cameraState | selection | viewParams | tooltip | unrecognized => []

def toJson (i : Instruction) : Json := .record (("type", .text i.tag) :: i.operands)

/-! ## Reading -/

/-- The names of the operands that belong to a tag. -/
def operandNames (tag : String) : List String :=
  match tag with
  | "background" => ["reference"]
  | "map" => ["id"]
  | "initiative" => ["value", "ids"]
  | "initiative-set" => ["entries"]
  | "grid" => ["grid", "size"]
  | "board" => ["cols", "rows"]
  | "sprite-def" => ["code", "attrs"]
  | "place" => ["code", "cells"]
  | "create" => ["attrs", "target"]
  | "height" => ["cells"]
  | "height-raw" => ["text"]
  | "height-rows" => ["rows"]
  | "height-rando" => ["seed", "min", "max"]
  | "roads" => ["cells"]
  | "state" => ["attrs"]
  | "move" => ["id", "path"]
  | "attack" => ["attacker", "target", "kind", "speed", "duration"]
  | "effect" => ["kind", "at", "duration", "speed"]
  | "remove" => ["id"]
  | "clear" => ["scope"]
  | _ => []

/-- The instruction of a tag with the values of its operands. -/
def ofOperands? (tag : String) (operands : List (Option Json)) : Option Instruction :=
  match tag, operands with
  | "background", [reference] => return .background (← required asText? reference)
  | "map", [id] => return .map (← required asText? id)
  | "initiative", [value, ids] =>
    return .initiative (← optional asInt32? value) (← required (asList? asText?) ids)
  | "initiative-set", [entries] =>
    return .initiativeSet (← required (asList? InitiativeEntry.ofJson?) entries)
  | "grid", [kind, size] =>
    return .grid (← required (namedChoice? Grid.ofName?) kind) (← required asUInt32? size)
  | "board", [cols, rows] =>
    return .board (← required asUInt32? cols) (← required asUInt32? rows)
  | "sprite-def", [code, attrs] =>
    return .spriteDef (← required asText? code) (← required Attributes.ofJson? attrs)
  | "place", [code, cells] =>
    return .place (← required asText? code) (← required (asList? Cell.ofJson?) cells)
  | "create", [attrs, target] =>
    return .create (← required Attributes.ofJson? attrs) (← required Target.ofJson? target)
  | "height", [cells] => return .height (← required (asList? CellHeight.ofJson?) cells)
  | "height-raw", [raw] => return .heightRaw (← required asText? raw)
  | "height-rows", [rows] => return .heightRows (← required (asList? asText?) rows)
  | "height-rando", [seed, min, max] =>
    return .heightRandom (← optional asUInt64? seed) (.number (← required asFloat? min))
      (.number (← required asFloat? max))
  | "roads", [cells] => return .roads (← required (asList? Cell.ofJson?) cells)
  | "state", [attrs] => return .state (← required Attributes.ofJson? attrs)
  | "move", [id, path] => return .move (← required asText? id) (← required Route.ofJson? path)
  | "attack", [attacker, target, kind, speed, duration] =>
    return .attack (← required asText? attacker) (← required asText? target)
      (← required (namedChoice? AttackKind.ofName?) kind) (← optional asFloat? speed)
      (← optional asFloat? duration)
  | "effect", [kind, cell, duration, speed] =>
    return .effect (← required asText? kind) (← required Cell.ofJson? cell)
      (← optional asFloat? duration) (← optional asFloat? speed)
  | "remove", [id] => return .remove (← required asText? id)
  | "remove-heightmap", [] => some .removeHeightmap
  | "clear", [scope] => return .clear (← required (namedChoice? ClearScope.ofName?) scope)
  | "reset", [] => some .reset
  | "camera-state", [] => some .cameraState
  | "selection", [] => some .selection
  | "view-params", [] => some .viewParams
  | "tooltip", [] => some .tooltip
  | _, [] => some .unrecognized
  | _, _ => none

/-- An instruction is a record with a tag, or a list of the tag and the operands. -/
def ofJson? : Json → Option Instruction
  | .record fields => do
    let tag ← required asText? (← single? "type" fields)
    ofOperands? tag (← fields? (operandNames tag) (.record fields))
  | .list (.text tag :: operands) => do
    ofOperands? tag (← fields? (operandNames tag) (.list operands))
  | _ => none

/-! ## Lists of instructions -/

def listText (instructions : List Instruction) : String := (listOf toJson instructions).pretty

def ofListText? (text : String) : Option (List Instruction) := do
  (← read? text).asList? ofJson?

end Instruction

end Tabletop
