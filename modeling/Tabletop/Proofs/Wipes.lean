import Tabletop.Proofs.CaughtUp
import Tabletop.Proofs.Mirror

/-!
# What comes before a wipe

A wipe leaves nothing from before, whatever it was, so instructions may be dropped up to the last of
their wipes.

* `Instruction.LastWipe`: the place of the last wipe among instructions.
* `World.apply_of_lastWipe`: all worlds come to the same from there.
* `Roster.SameTable`: settings that are the same as far as a roster goes by them. A wipe leaves
  nothing but settings, so all rosters of one table come to the same (`Roster.apply_of_lastWipe`), up
  to settings that they do not go by (`Roster.Same`).
* `Journal.Written`: the journals that batches lead to. They have no wipe but at the beginning.
* `wipe_ends_history` puts the three together.
-/

namespace Tabletop

/-- There is a wipe at a place, and none after it. -/
def Instruction.LastWipe (list : List Instruction) (place : Nat) : Prop :=
  ∃ wipe rest, list.drop place = wipe :: rest ∧ wipe.wipesWorld = true ∧
    ∀ i ∈ rest, i.wipesWorld = false

open Instruction

/-! ## Worlds -/

namespace World

theorem run_of_lastWipe {list : List Instruction} {place : Nat} (h : LastWipe list place)
    (rules : Rules) (w w' : World) :
    (run rules w list).1 = (run rules w' (list.drop place)).1 := by
  obtain ⟨wipe, rest, hdrop, hwipe, -⟩ := h
  have hsplit : (run rules w list).1 =
      (run rules (run rules w (list.take place)).1 (list.drop place)).1 := by
    rw [← run_append, List.take_append_drop]
  rw [hsplit, hdrop]
  exact run_of_wipe rules _ w' rest hwipe

/-- Only what comes after the wipe has to do without a seed from the clock. -/
theorem apply_of_lastWipe {list : List Instruction} {place : Nat} (h : LastWipe list place)
    (hseeded : ∀ i ∈ list.drop place, i.isSeeded = true) (settings : Settings) (a b : UInt64)
    (w w' : World) :
    (w.apply (.ofSettings settings a) list).1 =
      (w'.apply (.ofSettings settings b) (list.drop place)).1 := by
  have hrest : list.drop place ≠ [] := by
    obtain ⟨wipe, rest, hdrop, -⟩ := h
    rw [hdrop]
    exact List.cons_ne_nil wipe rest
  have hlist : list ≠ [] := by
    intro hnil
    exact hrest (by rw [hnil, List.drop_nil])
  rw [apply_of_seeded b a w' hseeded, apply_of_ne_nil hlist, apply_of_ne_nil hrest,
    run_of_lastWipe h _ w w']

end World

/-! ## Rosters -/

namespace Roster

/-- The settings are the same as far as a roster goes by them. -/
structure SameTable (a b : Settings) : Prop where
  rowBase : a.rowBase = b.rowBase
  feetPerCell : a.combat.feetPerCell = b.combat.feetPerCell
  defaultHp : a.combat.defaultHp = b.combat.defaultHp
  byBeginning : a.byBeginning = b.byBeginning

def withSettings (r : Roster) (settings : Settings) : Roster := { r with settings }

/-- The rosters are equal in everything, and in the settings that they go by. -/
structure Same (r r' : Roster) : Prop where
  table : SameTable r'.settings r.settings
  rest : r' = r.withSettings r'.settings

section WithSettings

variable {settings : Settings} {r : Roster}

theorem fighter?_withSettings (h : SameTable settings r.settings) (reference : String) :
    (r.withSettings settings).fighter? reference = r.fighter? reference := by
  unfold fighter? withSettings
  dsimp only
  rw [h.byBeginning]

theorem canonical_withSettings (h : SameTable settings r.settings) :
    (r.withSettings settings).canonical = r.canonical := by
  funext reference
  rw [canonical, canonical, fighter?_withSettings h]

theorem spawn_withSettings (h : SameTable settings r.settings) (sprite : Sprite) (stem : String)
    (attrs : Attributes) (cells : List Cell) :
    (r.withSettings settings).spawn sprite stem attrs cells =
      (r.spawn sprite stem attrs cells).withSettings settings := by
  induction cells generalizing r with
  | nil => rfl
  | cons cell cells ih =>
    have hhp : (r.withSettings settings).settings.combat.defaultHp =
        r.settings.combat.defaultHp := h.defaultHp
    rw [spawn, spawn, hhp]
    exact ih (r := { r with fighters := r.fighters ++ [_] }) h

theorem change_withSettings (h : SameTable settings r.settings) (reference : String)
    (f : Fighter → Fighter) :
    (r.withSettings settings).change reference f =
      (r.change reference f).map (·.withSettings settings) := by
  rw [change, change, fighter?_withSettings h]
  cases r.fighter? reference with
  | none => rfl
  | some fighter => rfl

theorem define_withSettings (settings : Settings) (r : Roster) (reference : String) :
    (r.withSettings settings).define reference =
      (r.define reference).map fun found => (found.1, found.2.withSettings settings) := by
  have hsprites : (r.withSettings settings).sprites = r.sprites := rfl
  rw [define, define, hsprites]
  cases Sprite.resolve? r.sprites reference with
  | none => rfl
  | some found => rfl

theorem create_withSettings (h : SameTable settings r.settings) (attrs : Attributes)
    (target : Target) :
    (r.withSettings settings).create attrs target =
      (r.create attrs target).map (·.withSettings settings) := by
  rw [create, create]
  cases attrs.reference? with
  | none => rfl
  | some reference =>
    dsimp only
    rw [define_withSettings]
    unfold define
    cases Sprite.resolve? r.sprites reference with
    | none => rfl
    | some found =>
      exact congrArg Except.ok
        (spawn_withSettings (r := { r with sprites := found.2 }) h found.1 _ attrs _)

/-- An instruction does not look at other settings, and leaves all of them as they are. -/
theorem step_withSettings (h : SameTable settings r.settings) (i : Instruction) :
    (r.withSettings settings).step i = (r.step i).map (·.withSettings settings) := by
  unfold step
  cases i with
  | place code cells =>
    dsimp only
    rw [define_withSettings]
    unfold define
    cases Sprite.resolve? r.sprites code with
    | none => rfl
    | some found =>
      exact congrArg Except.ok
        (spawn_withSettings (r := { r with sprites := found.2 }) h found.1 code ∅ cells)
  | create attrs target => exact create_withSettings h attrs target
  | move id route =>
    dsimp only
    cases route.destination? with
    | none => rfl
    | some position => exact change_withSettings h id _
  | state attrs =>
    dsimp only
    cases attrs.first? ["id", "token"] with
    | none => rfl
    | some id => exact change_withSettings h id _
  | remove id =>
    dsimp only
    rw [fighter?_withSettings h]
    cases r.fighter? id with
    | none => rfl
    | some fighter => rfl
  | initiativeSet entries =>
    dsimp only
    rw [canonical_withSettings h]
    rfl
  | initiative value ids =>
    cases value with
    | none =>
      dsimp only
      rw [withOrder, canonical_withSettings h]
      rfl
    | some value =>
      dsimp only
      rw [canonical_withSettings h]
      rfl
  | clear scope =>
    cases scope with
    | tokens => rfl
    | all => rfl
  | _ => rfl

theorem follow_withSettings (h : SameTable settings r.settings) (i : Instruction) :
    (r.withSettings settings).follow i = (r.follow i).withSettings settings := by
  rw [follow, follow, step_withSettings h]
  cases r.step i with
  | ok r' => rfl
  | error cause => rfl

theorem apply_withSettings (h : SameTable settings r.settings) (batch : List Instruction) :
    ((r.withSettings settings).apply batch).1 = (r.apply batch).1.withSettings settings := by
  rw [apply_eq_foldl, apply_eq_foldl]
  induction batch generalizing r with
  | nil => rfl
  | cons i batch ih =>
    rw [List.foldl_cons, List.foldl_cons, follow_withSettings h]
    exact ih (by rw [follow_settings]; exact h)

end WithSettings

/-- Of a roster that is wiped nothing is left but its settings. -/
theorem follow_of_wipe (r : Roster) {i : Instruction} (h : i.wipesWorld = true) :
    r.follow i = empty r.settings := by
  unfold Instruction.wipesWorld at h
  split at h
  · rfl
  · rfl
  · cases h

theorem apply_of_lastWipe {list : List Instruction} {place : Nat} (h : LastWipe list place)
    {r r' : Roster} (hsame : SameTable r'.settings r.settings) :
    Same (r.apply list).1 (r'.apply (list.drop place)).1 := by
  obtain ⟨wipe, rest, hdrop, hwipe, -⟩ := h
  have hsplit : (r.apply list).1 = ((r.apply (list.take place)).1.apply (list.drop place)).1 := by
    rw [apply_eq_foldl, apply_eq_foldl, apply_eq_foldl, ← List.foldl_append, List.take_append_drop]
  have hbegins : ∀ r : Roster, (r.apply (wipe :: rest)).1 = ((empty r.settings).apply rest).1 := by
    intro r
    rw [apply_eq_foldl, List.foldl_cons, follow_of_wipe r hwipe, apply_eq_foldl]
  have hrest := apply_withSettings (r := empty r.settings) hsame rest
  refine ⟨?_, ?_⟩
  · rw [apply_settings, apply_settings]
    exact hsame
  · rw [apply_settings, hsplit, hdrop, hbegins, hbegins, apply_settings]
    exact hrest

end Roster

/-! ## Journals -/

namespace Journal

/-- The journals that batches lead to. -/
inductive Written : Journal → Prop where
  | start (token : RefreshToken) : Written (.start token)
  | append {j : Journal} (fresh : RefreshToken) (batch : List Instruction) (h : Written j) :
      Written (j.append fresh batch)

/-- What a journal keeps of a batch that wipes begins with the wipe; a batch that does not wipe goes
behind what is there. -/
theorem Written.only_first_wipes {j : Journal} (h : Written j) :
    ∀ i ∈ (j.since 0).instructions.tail, i.wipesWorld = false := by
  induction h with
  | start token =>
    intro i hi
    cases hi
  | @append j fresh batch _ ih =>
    by_cases hne : batch = []
    · rw [hne]
      exact ih
    · rcases fromLastWipe?_cases batch with
        ⟨hnone, hkeeps⟩ | ⟨before, wipe, rest, hsome, -, -, hrest⟩
      · rw [since_append hne hnone (Nat.zero_le _)]
        intro i hi
        cases hold : (j.since 0).instructions with
        | nil =>
          rw [hold, List.nil_append] at hi
          exact hkeeps i (List.mem_of_mem_tail hi)
        | cons first later =>
          rw [hold, List.cons_append, List.tail_cons] at hi
          rcases List.mem_append.mp hi with hi | hi
          · exact ih i (by rw [hold]; exact hi)
          · exact hkeeps i hi
      · rw [since_append_wipe hsome (Nat.zero_le _)]
        exact hrest

end Journal

/-- Instructions whose last wipe is at some place lead every world to where those from that place on
lead every other world, if no terrain is drawn by the clock, and every roster to where they lead every
other roster of the same table. A journal that batches lead to has no wipe but perhaps the first of
its instructions. -/
theorem wipe_ends_history :
    (∀ (settings : Settings) (a b : UInt64) (w w' : World) (list : List Instruction) (place : Nat),
      LastWipe list place → (∀ i ∈ list, i.isSeeded = true) →
      (w.apply (.ofSettings settings a) list).1 =
        (w'.apply (.ofSettings settings b) (list.drop place)).1) ∧
    (∀ (r r' : Roster) (list : List Instruction) (place : Nat),
      LastWipe list place → Roster.SameTable r'.settings r.settings →
      Roster.Same (r.apply list).1 (r'.apply (list.drop place)).1) ∧
    ∀ j, Journal.Written j → ∀ i ∈ (j.since 0).instructions.tail, i.wipesWorld = false := by
  refine ⟨fun settings a b w w' list place hlast hseeded => ?_, fun r r' list place hlast hsame => ?_,
    fun j hj => hj.only_first_wipes⟩
  · have hrest : ∀ i ∈ list.drop place, i.isSeeded = true := fun i hi =>
      hseeded i (List.mem_of_mem_drop hi)
    exact World.apply_of_lastWipe hlast hrest settings a b w w'
  · exact Roster.apply_of_lastWipe hlast hsame

/-- A table on which a wolf has bitten a goblin is cleared for a single goblin. An empty table, whose
clock gives another seed, gets to the same without the first two instructions. -/
theorem wipe_ends_history_cleared :
    let before : List Instruction :=
      [.place "goblin" [⟨0, 0⟩], .place "wolf" [⟨1, 0⟩],
        .attack "wolf-1" "goblin-1" .physical none none, .initiative (some 3) ["wolf-1"]]
    let w := (World.empty.apply (.ofSettings {} 1) before).1
    let r := ((Roster.empty {}).apply before).1
    let list : List Instruction :=
      [.spriteDef "G" ∅, .reset, .clear .all, .board 1 1, .place "goblin" [⟨0, 0⟩]]
    (w ≠ .empty ∧ r ≠ .empty {} ∧ LastWipe list 2) ∧
      (w.apply (.ofSettings {} 1) list).1 =
        (World.empty.apply (.ofSettings {} 2) (list.drop 2)).1 ∧
      Roster.Same (r.apply list).1 ((Roster.empty { pollInterval := 5 }).apply (list.drop 2)).1 := by
  intro before w r list
  have hlast : LastWipe list 2 := ⟨.clear .all, _, rfl, rfl, by decide⟩
  obtain ⟨hworlds, hrosters, -⟩ := wipe_ends_history
  refine ⟨⟨?_, ?_, hlast⟩, ?_, ?_⟩
  · decide +kernel
  · decide +kernel
  · exact hworlds {} 1 2 w .empty list 2 hlast (by decide)
  · have hsettings : r.settings = {} := Roster.apply_settings (.empty {}) before
    exact hrosters r _ list 2 hlast (hsettings ▸ ⟨rfl, rfl, rfl, rfl⟩)

end Tabletop
