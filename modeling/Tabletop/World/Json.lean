import Tabletop.Instruction.Json
import Tabletop.Sprite.Json
import Tabletop.World

/-!
# Worlds as JSON

The whole state of a battle as one record, so that it can be shown and taken over. Heights are a
record with cells for keys, and roads are a list of cells; both stand in the order of their cells.

* `World.toJson` writes a world. A number that is not finite is written as `null`.
* `World.ofJson?` reads one. A number is required where a number was written, so that a world with
  a height that is not finite cannot be read back.
-/

namespace Tabletop

open Json

namespace TokenId

def toJson (id : TokenId) : Json := .text id.text

def ofJson? (j : Json) : Option TokenId := j.asText?.bind ofText?

end TokenId

/-! ## The board -/

namespace Board

def heightsToJson (heights : Dict Cell Float) : Json :=
  .record (heights.entries.map fun (cell, h) => (cell.key, .float h))

def heightsOfJson? : Json → Option (Dict Cell Float)
  | .record fields => do
    let pairs ← fields.mapM fun (key, h) => return (← Cell.ofKey? key, ← h.asFloat?)
    return .ofList pairs
  | _ => none

def roadsOfJson? (j : Json) : Option (Dict Cell Unit) := do
  let cells ← j.asList? Cell.ofJson?
  return .ofList (cells.map (·, ()))

def gridOfJson? (j : Json) : Option Grid := do
  let (name, content) ← choice? j
  if isNothing content then Grid.ofName? name else none

def toJson (b : Board) : Json :=
  .record
    [("id", .text b.id), ("grid_type", .text b.grid.name), ("cell_size_px", nat b.cellSize.toNat),
      ("cols", nat b.cols.toNat), ("rows", nat b.rows.toNat),
      ("background", option .text b.background), ("heights", heightsToJson b.heights),
      ("disable_auto_heights", .bool b.staysFlat),
      ("roads", listOf (fun (cell, _) => Cell.toJson cell) b.roads.entries)]

def fieldNames : List String :=
  ["id", "grid_type", "cell_size_px", "cols", "rows", "background", "heights",
    "disable_auto_heights", "roads"]

def ofJson? (j : Json) : Option Board := do
  match ← fields? fieldNames j with
  | [id, grid, cellSize, cols, rows, background, heights, staysFlat, roads] =>
    return {
      id := ← required asText? id
      grid := ← required gridOfJson? grid
      cellSize := ← required asUInt32? cellSize
      cols := ← required asUInt32? cols
      rows := ← required asUInt32? rows
      background := ← optional asText? background
      heights := ← required heightsOfJson? heights
      staysFlat := ← required asBool? staysFlat
      roads := ← required roadsOfJson? roads }
  | _ => none

end Board

/-! ## The scene -/

namespace Point

def toJson (p : Point Float) : Json := .record [("col", .float p.col), ("row", .float p.row)]

def ofJson? (j : Json) : Option (Point Float) := do
  match ← fields? ["col", "row"] j with
  | [col, row] => return ⟨← required asFloat? col, ← required asFloat? row⟩
  | _ => none

end Point

namespace Token

def toJson (t : Token Float) : Json :=
  .record
    [("id", t.id.toJson), ("def_id", .text t.sprite), ("map_id", .text t.board),
      ("col", .float t.position.col), ("row", .float t.position.row), ("speed", nat t.speed.toNat),
      ("faction", .text t.faction), ("kind", .text t.kind), ("size", .float t.size),
      ("name", .text t.name), ("art_override", option .text t.art)]

def fieldNames : List String :=
  ["id", "def_id", "map_id", "col", "row", "speed", "faction", "kind", "size", "name",
    "art_override"]

def ofJson? (j : Json) : Option (Token Float) := do
  match ← fields? fieldNames j with
  | [id, sprite, board, col, row, speed, faction, kind, size, name, art] =>
    return {
      id := ← required TokenId.ofJson? id
      sprite := ← required asText? sprite
      board := ← required asText? board
      position := ⟨← required asFloat? col, ← required asFloat? row⟩
      speed := ← required asUInt32? speed
      faction := ← required asText? faction
      kind := ← required asText? kind
      size := ← required asFloat? size
      name := ← required asText? name
      art := ← optional asText? art }
  | _ => none

end Token

/-- A count of at most 64 bits. -/
def asCount? (j : Json) : Option Nat := j.asNat? Decimal.word64

namespace Walk

def toJson (w : Walk Float) : Json :=
  .record
    [("token_id", w.token.toJson), ("path", listOf Point.toJson w.path), ("index", nat w.index),
      ("speed", .float w.speed)]

def ofJson? (j : Json) : Option (Walk Float) := do
  match ← fields? ["token_id", "path", "index", "speed"] j with
  | [token, path, index, speed] =>
    return {
      token := ← required TokenId.ofJson? token
      path := ← required (asList? Point.ofJson?) path
      index := ← required asCount? index
      speed := ← required asFloat? speed }
  | _ => none

end Walk

namespace Anchor

def toJson : Anchor → Json
  | .token id => .record [("token", id.toJson)]
  | .cell c => .record [("cell", c.toJson)]

def ofJson? (j : Json) : Option Anchor := do
  match ← choice? j with
  | ("token", some v) => (TokenId.ofJson? v).map .token
  | ("cell", some v) => (Cell.ofJson? v).map .cell
  | _ => none

end Anchor

namespace Effect

def toJson (e : Effect Float) : Json :=
  .record
    [("id", nat e.id), ("kind", .text e.kind), ("source", e.source.toJson),
      ("target", e.target.toJson), ("speed", .float e.speed), ("duration", .float e.duration),
      ("age", .float e.age)]

def ofJson? (j : Json) : Option (Effect Float) := do
  match ← fields? ["id", "kind", "source", "target", "speed", "duration", "age"] j with
  | [id, kind, source, target, speed, duration, age] =>
    return {
      id := ← required asCount? id
      kind := ← required asText? kind
      source := ← required Anchor.ofJson? source
      target := ← required Anchor.ofJson? target
      speed := ← required asFloat? speed
      duration := ← required asFloat? duration
      age := ← required asFloat? age }
  | _ => none

end Effect

/-! ## The world -/

namespace World

def toJson (w : World) : Json :=
  .record
    [("map", w.board.toJson), ("token_definitions", listOf Sprite.toJson w.sprites),
      ("token_instances", listOf Token.toJson w.scene.tokens),
      ("active_moves", listOf Walk.toJson w.scene.walks),
      ("active_effects", listOf Effect.toJson w.scene.effects),
      ("next_effect_id", nat w.lastEffect)]

def fieldNames : List String :=
  ["map", "token_definitions", "token_instances", "active_moves", "active_effects",
    "next_effect_id"]

def ofJson? (j : Json) : Option World := do
  match ← fields? fieldNames j with
  | [board, sprites, tokens, walks, effects, lastEffect] =>
    return {
      board := ← required Board.ofJson? board
      sprites := ← required (asList? Sprite.ofJson?) sprites
      scene := {
        tokens := ← required (asList? Token.ofJson?) tokens
        walks := ← required (asList? Walk.ofJson?) walks
        effects := ← required (asList? Effect.ofJson?) effects }
      lastEffect := ← required asCount? lastEffect }
  | _ => none

/-- The world as a text with one field on each line. -/
def text (w : World) : String := w.toJson.pretty

/-- The world that comes back when the text of a world is read. -/
def reloaded? (w : World) : Option World := (read? w.toJson.compact).bind ofJson?

end World

end Tabletop
