import Tabletop.Json
import Tabletop.Sprite

/-!
# Definitions as JSON

A definition and its attacks are records with every field written; a value that is not given is
written as `null` and may be left out. `Sprite.ofJson?` reads what `Sprite.toJson` writes.
-/

namespace Tabletop

open Json

namespace Reach

def toJson (r : Reach) : Json := .record [("min", nat r.min.toNat), ("max", nat r.max.toNat)]

def ofJson? (j : Json) : Option Reach := do
  match ← fields? ["min", "max"] j with
  | [low, high] => return ⟨← required asUInt32? low, ← required asUInt32? high⟩
  | _ => none

end Reach

namespace Attack

def toJson (a : Attack) : Json :=
  .record
    [("name", .text a.name), ("mode", .text a.mode), ("to_hit", .int a.toHit.toInt),
      ("damage", .text a.damage), ("reach", a.reach.toJson)]

def ofJson? (j : Json) : Option Attack := do
  match ← fields? ["name", "mode", "to_hit", "damage", "reach"] j with
  | [name, mode, toHit, damage, reach] =>
    return {
      name := ← required asText? name
      mode := ← required asText? mode
      toHit := ← required asInt32? toHit
      damage := ← required asText? damage
      reach := ← required Reach.ofJson? reach }
  | _ => none

end Attack

namespace Sprite

def toJson (s : Sprite) : Json :=
  .record
    [("id", .text s.id), ("code", .text s.code), ("name", .text s.name),
      ("category", .text s.category), ("art_ref", option .text s.art),
      ("model_ref", option .text s.model), ("base_size", .float s.size),
      ("color_tint", option .text s.tint), ("faction", .text s.faction),
      ("speed", nat s.speed.toNat), ("hp", option (fun hp => .int hp.toInt) s.hp),
      ("attacks", listOf Attack.toJson s.attacks)]

def fieldNames : List String :=
  ["id", "code", "name", "category", "art_ref", "model_ref", "base_size", "color_tint", "faction",
    "speed", "hp", "attacks"]

def ofJson? (j : Json) : Option Sprite := do
  match ← fields? fieldNames j with
  | [id, code, name, category, art, model, size, tint, faction, speed, hp, attacks] =>
    return {
      id := ← required asText? id
      code := ← required asText? code
      name := ← required asText? name
      category := ← required asText? category
      art := ← optional asText? art
      model := ← optional asText? model
      size := ← required asFloat? size
      tint := ← optional asText? tint
      faction := ← required asText? faction
      speed := ← required asUInt32? speed
      hp := ← optional asInt32? hp
      attacks := ← required (asList? Attack.ofJson?) attacks }
  | _ => none

end Sprite

end Tabletop
