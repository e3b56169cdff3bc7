import Tabletop.Proofs.Dict
import Tabletop.Proofs.Lint
import Tabletop.Proofs.Scripted

/-!
# The instructions of a script are well formed

Whoever follows the instructions of a script can rely on what is in them without checking it again:
a way leads somewhere, an initiative is somebody's, and codes, references and keys are texts that
stand for themselves.

* `Instruction.WellFormed` says this instruction by instruction.
* `Directive.wellFormed_of_ofForm?`: a directive hands on what its form is like.
* `World.move_skipped`: a walk along such a way is only skipped for an unknown token.
* `Script.parse_wellFormed`: all instructions of all scripts are well formed, and no walk among them
  is ever skipped for want of coordinates.
-/

namespace Tabletop

/-! ## Ways -/

/-- A way to somewhere: a cell at least, and two where it leads from waypoint to waypoint. -/
structure Route.IsWay (route : Route) : Prop where
  somewhere : route.cells ≠ []
  along : ∀ cells, route = .waypoints cells → 2 ≤ cells.length

theorem Route.isWay_of_ofCells? {cells : List Cell} {route : Route}
    (h : ofCells? cells = some route) : route.IsWay := by
  match cells, h with
  | [cell], h =>
    cases h
    exact ⟨List.cons_ne_nil cell [], fun _ hway => nomatch hway⟩
  | first :: second :: rest, h =>
    cases h
    refine ⟨List.cons_ne_nil first _, ?_⟩
    rintro _ ⟨⟩
    exact Nat.le_add_left 2 rest.length

/-! ## Instructions -/

open Script in
/-- What the instructions of a script are like. -/
def Instruction.WellFormed : Instruction → Prop
  | .initiative _ ids => ids ≠ [] ∧ ∀ id ∈ ids, IsName id
  | .initiativeSet entries => entries ≠ [] ∧ ∀ entry ∈ entries, IsName entry.id
  | .spriteDef code attrs => IsName code ∧ ∀ key ∈ attrs.keys, IsKey key
  | .place code _ => IsName code
  | .create attrs _ => ∀ key ∈ attrs.keys, IsKey key
  | .state attrs => ∀ key ∈ attrs.keys, IsKey key
  | .move id route => IsName id ∧ route.IsWay
  | .attack attacker target _ _ _ => IsName attacker ∧ IsName target
  | .remove id => IsName id
  | _ => True

theorem Instruction.eq_move_of_tag {i : Instruction} (h : i.tag = "move") :
    ∃ id route, i = .move id route := by
  cases i with
  | move id route => exact ⟨id, route, rfl⟩
  | _ => simp [tag] at h

/-! ## Directives -/

namespace Script.Directive

theorem isKey_of_mem_keys {attrs : List (List Char × List Char)} (h : Keyed attrs) :
    ∀ key ∈ (attributesOf attrs).keys, IsKey key := by
  intro key hkey
  obtain ⟨e, he, rfl⟩ := List.mem_map.mp hkey
  obtain ⟨a, ha, rfl⟩ := List.mem_map.mp (Dict.mem_of_mem_ofList he)
  exact h a ha

/-- Initiative values are read for the ids that are written, in their order. -/
theorem ids_of_mapM {entries : List (List Char × List Char)} {values : List InitiativeEntry}
    (h : entries.mapM initiativeEntry? = some values) :
    values.map (·.id) = entries.map fun entry => String.ofList entry.1 := by
  induction entries generalizing values with
  | nil =>
    cases h
    rfl
  | cons entry entries ih =>
    rw [List.mapM_cons] at h
    obtain ⟨value, hvalue, h⟩ := Option.bind_eq_some_iff.mp h
    obtain ⟨others, hothers, h⟩ := Option.bind_eq_some_iff.mp h
    obtain ⟨n, -, rfl⟩ := Option.map_eq_some_iff.mp hvalue
    cases h
    rw [List.map_cons, List.map_cons, ih hothers]

theorem wellFormed_of_ofForm? {base : RowBase} {form : Form} {reading : Reading} {i : Instruction}
    (hform : form.WellFormed) (h : ofForm? base form = some reading)
    (hemit : reading.directive = some (.emit i)) : i.WellFormed := by
  cases Form.asks_of_ofForm? h hemit with
  | initiativeSet entries values =>
    obtain ⟨read, hread, h⟩ := Option.bind_eq_some_iff.mp h
    cases h
    cases hemit
    have hids := ids_of_mapM hread
    obtain ⟨hne, hnames⟩ := hform
    refine ⟨fun hnil => ?_, fun value hvalue => ?_⟩
    · rw [hnil] at hids
      exact hne (List.map_eq_nil_iff.mp hids.symm)
    · obtain ⟨entry, hentry, hid⟩ := List.mem_map.mp (hids ▸ List.mem_map_of_mem hvalue)
      exact hid ▸ hnames entry hentry
  | initiative value ids n =>
    obtain ⟨hne, hnames⟩ := hform
    exact ⟨fun hnil => hne (List.map_eq_nil_iff.mp hnil), List.forall_mem_map.mpr hnames⟩
  | spriteDef code attrs => exact ⟨hform.1, isKey_of_mem_keys hform.2⟩
  | place code items cells => exact hform
  | create attrs items target => exact isKey_of_mem_keys hform
  | state attrs => exact isKey_of_mem_keys hform
  | move id items path =>
    cases h
    obtain ⟨route, hroute, hpath⟩ := Option.map_eq_some_iff.mp hemit
    cases hpath
    exact ⟨hform, Route.isWay_of_ofCells? hroute⟩
  | attack attacker target magic timings => exact hform
  | remove id => exact hform
  | _ => trivial

end Script.Directive

/-- Rows and texts of heights are free; every other instruction is a directive's. -/
theorem Script.wellFormed_of_mem_parse {base : RowBase} {source : String} {i : Instruction}
    (h : i ∈ (parse base source).instructions) : i.WellFormed := by
  rcases instruction_cases h with ⟨rows, rfl⟩ | ⟨text, rfl⟩ | ⟨line, reading, hread, hemit⟩
  · trivial
  · trivial
  · obtain ⟨form, hform, hread⟩ := Option.bind_eq_some_iff.mp hread
    exact Directive.wellFormed_of_ofForm? (Form.wellFormed_of_read? hform) hread hemit

/-! ## Walks -/

namespace World

/-- A walk to somewhere is skipped for one cause only. -/
theorem move_skipped {rules : Rules} {w : World} {reference : String} {route : Route}
    {cause : Skip} (hway : route.cells ≠ [])
    (h : (w.move rules reference route).skipped = some cause) : cause = .unknownToken reference := by
  rw [move, withToken] at h
  split at h
  · split at h
    · cases h
      rfl
    · split at h
      · rename_i hnone
        exact absurd (walkOf?_eq_none_iff.mp hnone) hway
      · cases h
  · cases h
    rfl

/-- A way without a cell is no way, even for a token that there is. -/
example :
    let w := (World.empty.apply (.ofSettings {} 0) [.place "goblin" [⟨0, 0⟩]]).1
    (w.move (.ofSettings {} 0) "goblin-1" (.waypoints [])).skipped = some .noCoordinates := by
  decide +kernel

/-- Whatever world a batch has led to, each of its walks leads somewhere. -/
theorem not_skipped_mem_apply {rules : Rules} {w : World} {batch : List Instruction}
    (hbatch : ∀ i ∈ batch, i.WellFormed) :
    .skipped "move" Skip.noCoordinates.message ∉ (w.apply rules batch).2 := by
  intro hmem
  obtain ⟨i, hi, w', cause, hskipped, htag, hmessage⟩ := skipped_of_mem_run (skipped_mem_run hmem)
  obtain ⟨id, route, rfl⟩ := Instruction.eq_move_of_tag htag.symm
  obtain ⟨-, hway⟩ := hbatch _ hi
  rw [move_skipped hway.somewhere hskipped] at hmessage
  exact absurd (Skip.isUnknown_of_message_eq hmessage) Bool.false_ne_true

end World

/-- A fighter goes to the end of a way to somewhere, if there is such a fighter. -/
theorem Roster.move_error {r : Roster} {reference : String} {route : Route} {cause : Unfollowed}
    (hway : route.cells ≠ []) (h : r.step (.move reference route) = .error cause) :
    cause = .unknownToken reference := by
  have hcell : route.destination? = some (route.cells.getLast hway) :=
    List.getLast?_eq_some_getLast hway
  unfold step at h
  simp only [hcell, change] at h
  split at h
  · cases h
  · cases h
    rfl

/-! ## Scripts -/

namespace Script

/-- Every instruction of a script is well formed. So neither the world nor the roster ever finds a
walk of a script without a cell to go to, whichever world or roster it meets. -/
theorem parse_wellFormed (base : RowBase) (source : String) :
    let instructions := (parse base source).instructions
    (∀ i ∈ instructions, i.WellFormed) ∧
      (∀ id route, .move id route ∈ instructions →
        (∀ (rules : Rules) (w : World),
          (w.step rules (.move id route)).skipped ≠ some .noCoordinates) ∧
        ∀ r : Roster, r.step (.move id route) ≠ .error .emptyPath) ∧
      ∀ (rules : Rules) (w : World),
        .skipped "move" Skip.noCoordinates.message ∉ (w.apply rules instructions).2 := by
  intro instructions
  have hall : ∀ i ∈ instructions, i.WellFormed := fun i hi => wellFormed_of_mem_parse hi
  refine ⟨hall, fun id route hmove => ?_, fun rules w => World.not_skipped_mem_apply hall⟩
  obtain ⟨-, hway⟩ := hall _ hmove
  refine ⟨fun rules w hskipped => ?_, fun r herror => ?_⟩
  · cases World.move_skipped hway.somewhere hskipped
  · cases Roster.move_error hway.somewhere herror

/-- A walk along two waypoints, from a list with an item that is no cell. -/
theorem parse_wellFormed_waypoints :
    let source := "SPRITE DEF Gob Name='Big Gob'\nPLACE Gob @ A1\nMOVE Gob-1 TO B1 ?, C2"
    let walk : Instruction := .move "Gob-1" (.waypoints [⟨1, 0⟩, ⟨2, 1⟩])
    walk ∈ (parse .one source).instructions ∧ walk.WellFormed ∧
      ∀ (rules : Rules) (w : World), (w.step rules walk).skipped ≠ some .noCoordinates := by
  intro source walk
  have hmem : walk ∈ (parse .one source).instructions := by decide +kernel
  obtain ⟨hall, hwalks, -⟩ := parse_wellFormed .one source
  exact ⟨hmem, hall walk hmem, (hwalks _ _ hmem).1⟩

end Script

end Tabletop
