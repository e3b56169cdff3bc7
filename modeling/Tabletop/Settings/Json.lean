import Tabletop.Json
import Tabletop.Settings

/-!
# Settings as values

Settings are a record of sections, and each section is a record of fields. Whatever is left out has
its default, and what is not known is passed over. `Settings.ofJson?` reads settings, whatever
format the values were written in; the `Custom` says in what the formats differ.
-/

namespace Tabletop.Settings

open Json

/-- How a format writes what has several spellings. -/
structure Custom where
  /-- The content of a choice that has none. -/
  isNothing : Option Json → Bool
  /-- A list that stands for a record may have items left over. -/
  spareItems : Bool

/-- In JSON the choice `one` is written as its name, or as a record that holds `null` under the
name. -/
def jsonCustom : Custom := ⟨isNothing, false⟩

/-! ## Reading -/

/-- The values of the named fields. A list gives them in order, perhaps not all of them. -/
def sectionFields? (custom : Custom) (names : List String) : Json → Option (List (Option Json))
  | .record fields => names.mapM (single? · fields)
  | .list items =>
    if names.length < items.length && !custom.spareItems then none
    else some ((List.range names.length).map (items[·]?))
  | _ => none

def orDefault {α : Type} (default : α) (decode : Json → Option α) : Option Json → Option α
  | none => some default
  | some j => decode j

def rowBaseOfJson? (custom : Custom) (j : Json) : Option RowBase := do
  let (name, content) ← choice? j
  if custom.isNothing content then RowBase.ofName? name else none

def coordsOfJson? (custom : Custom) (j : Json) : Option RowBase := do
  match ← sectionFields? custom ["row_base"] j with
  | [rowBase] => orDefault .one (rowBaseOfJson? custom) rowBase
  | _ => none

def animationFields : List String :=
  ["speed_scale", "move_cells_per_second", "arrival_epsilon", "attack_duration", "attack_speed",
    "effect_duration", "effect_speed"]

def Animation.ofJson? (custom : Custom) (j : Json) : Option Animation := do
  let start : Animation := {}
  match ← sectionFields? custom animationFields j with
  | [scale, cells, epsilon, attackDuration, attackSpeed, effectDuration, effectSpeed] =>
    return {
      speedScale := ← orDefault start.speedScale asFloat? scale
      cellsPerSecond := ← orDefault start.cellsPerSecond asFloat? cells
      arrivalEpsilon := ← orDefault start.arrivalEpsilon asFloat? epsilon
      attackDuration := ← orDefault start.attackDuration asFloat? attackDuration
      attackSpeed := ← orDefault start.attackSpeed asFloat? attackSpeed
      effectDuration := ← orDefault start.effectDuration asFloat? effectDuration
      effectSpeed := ← orDefault start.effectSpeed asFloat? effectSpeed }
  | _ => none

def Combat.ofJson? (custom : Custom) (j : Json) : Option Combat := do
  let start : Combat := {}
  match ← sectionFields? custom ["feet_per_cell", "default_hp"] j with
  | [feet, hp] =>
    return {
      feetPerCell := ← orDefault start.feetPerCell asUInt32? feet
      defaultHp := ← orDefault start.defaultHp asInt32? hp }
  | _ => none

def lookupOfJson? (custom : Custom) (j : Json) : Option Bool := do
  match ← sectionFields? custom ["prefix_fallback"] j with
  | [byBeginning] => orDefault false asBool? byBeginning
  | _ => none

def syncOfJson? (custom : Custom) (j : Json) : Option Nat := do
  match ← sectionFields? custom ["poll_interval_ms"] j with
  | [interval] => orDefault 1000 (asNat? Decimal.word64) interval
  | _ => none

def ofJson? (custom : Custom) (j : Json) : Option Settings := do
  match ← sectionFields? custom ["coords", "animation", "combat", "lookup", "sync"] j with
  | [coords, animation, combat, lookup, sync] =>
    return {
      rowBase := ← orDefault .one (coordsOfJson? custom) coords
      animation := ← orDefault {} (Animation.ofJson? custom) animation
      combat := ← orDefault {} (Combat.ofJson? custom) combat
      byBeginning := ← orDefault false (lookupOfJson? custom) lookup
      pollInterval := ← orDefault 1000 (syncOfJson? custom) sync }
  | _ => none

/-! ## Writing -/

def Animation.toJson (a : Animation) : Json :=
  .record
    [("speed_scale", .float a.speedScale), ("move_cells_per_second", .float a.cellsPerSecond),
      ("arrival_epsilon", .float a.arrivalEpsilon), ("attack_duration", .float a.attackDuration),
      ("attack_speed", .float a.attackSpeed), ("effect_duration", .float a.effectDuration),
      ("effect_speed", .float a.effectSpeed)]

def Combat.toJson (c : Combat) : Json :=
  .record [("feet_per_cell", nat c.feetPerCell.toNat), ("default_hp", .int c.defaultHp.toInt)]

def toJson (s : Settings) : Json :=
  .record
    [("coords", .record [("row_base", .text s.rowBase.name)]),
      ("animation", s.animation.toJson),
      ("combat", s.combat.toJson),
      ("lookup", .record [("prefix_fallback", .bool s.byBeginning)]),
      ("sync", .record [("poll_interval_ms", nat s.pollInterval)])]

end Tabletop.Settings
