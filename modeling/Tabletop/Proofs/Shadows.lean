import Tabletop.Proofs.Mirror

/-!
# The roster shadows the tokens of the world

When the numbers of a stem are used up, they start over with zero, and from then on tokens may share
an id. World and roster are no longer alike then, since the world removes one token with an id and
the roster all of them. What is left is enough to address a fighter on both sides.

* `TokenId.Shadowed`: one list of ids holds no others than a second one, and all but those with
  number zero. Then the next id with a stem is the same for both.
* `Shadows` says so of the fighters of a roster and the tokens of a world. Every instruction
  preserves it, as long as ids are not found by their beginnings, and so do batches and the clock.
-/

namespace Tabletop

namespace TokenId

/-! ## Shadowed ids -/

/-- All known ids are live, and every live id is known unless its number is zero. Only ids with
number zero are live more than once. -/
structure Shadowed (live known : List TokenId) : Prop where
  subset : known ⊆ live
  complete : ∀ id ∈ live, id.number ≠ 0 → id ∈ known
  distinct : (live.filter (·.number != 0)).Nodup

theorem highest_le {stem : String} {ids ids' : List TokenId}
    (h : ∀ id ∈ ids, id.number ≠ 0 → id ∈ ids') :
    (highest stem ids).toNat ≤ (highest stem ids').toNat := by
  rcases highestFrom_mem stem 0 ids with hzero | ⟨id, hid, hstem, hnumber⟩
  · have hzero : highest stem ids = 0 := hzero
    rw [hzero]
    exact Nat.zero_le _
  · have hnumber : id.number = highest stem ids := hnumber
    by_cases hzero : id.number = 0
    · rw [← hnumber, hzero]
      exact Nat.zero_le _
    · rw [← hnumber]
      exact le_highestFrom (h id hid hzero) hstem

/-- A number that does not start over is a new one. -/
theorem next_not_mem_of_ne_zero {stem : String} {ids : List TokenId}
    (h : (next stem ids).number ≠ 0) : next stem ids ∉ ids := by
  intro hmem
  have hle : (next stem ids).number.toNat ≤ (highest stem ids).toNat := le_highestFrom hmem rfl
  have hnumber : (next stem ids).number.toNat ≠ 0 := fun hzero =>
    h (UInt32.toNat_inj.mp hzero)
  rw [next, UInt32.toNat_add] at hle hnumber
  have h1 : (1 : UInt32).toNat = 1 := rfl
  have hlt := (highest stem ids).toNat_lt
  omega

namespace Shadowed

variable {live known : List TokenId}

theorem nil : Shadowed [] [] := ⟨List.Subset.refl _, by simp, by simp⟩

theorem next_eq (h : Shadowed live known) (stem : String) : next stem known = next stem live := by
  have hhighest : highest stem known = highest stem live := by
    refine UInt32.toNat_inj.mp (Nat.le_antisymm ?_ (highest_le h.complete))
    exact highest_le fun id hid _ => h.subset hid
  rw [next, next, hhighest]

theorem mint (h : Shadowed live known) (stem : String) :
    Shadowed (live ++ [next stem live]) (known ++ [next stem known]) := by
  rw [h.next_eq]
  refine ⟨?_, ?_, ?_⟩
  · exact List.append_subset.mpr
      ⟨fun id hid => List.mem_append_left _ (h.subset hid), List.subset_append_right _ _⟩
  · intro id hid hzero
    rcases List.mem_append.mp hid with hid | hid
    · exact List.mem_append_left _ (h.complete id hid hzero)
    · exact List.mem_append_right _ hid
  · rw [List.filter_append]
    by_cases hzero : (next stem live).number = 0
    · simpa [hzero] using h.distinct
    · have hnew := next_not_mem_of_ne_zero hzero
      have hlast : [next stem live].filter (·.number != 0) = [next stem live] := by simp [hzero]
      rw [hlast, List.nodup_append]
      refine ⟨h.distinct, by simp, fun id hid id' hid' heq => ?_⟩
      rw [heq, List.mem_singleton.mp hid'] at hid
      exact hnew (List.mem_of_mem_filter hid)

theorem mintOn (h : Shadowed live known) (stem : String) (count : Nat) :
    Shadowed (Lint.Ledger.mintOn stem count live) (Lint.Ledger.mintOn stem count known) := by
  induction count generalizing live known with
  | zero => exact h
  | succ count ih => exact ih (h.mint stem)

/-- One token with an id goes, and all fighters with it. -/
theorem remove (h : Shadowed live known) (gone : TokenId) :
    Shadowed (live.erase gone) (known.filter (· != gone)) where
  subset := by
    intro id hid
    obtain ⟨hid, hne⟩ := List.mem_filter.mp hid
    exact (List.mem_erase_of_ne (bne_iff_ne.mp hne)).mpr (h.subset hid)
  complete := by
    intro id hid hzero
    -- Among the live ids with a number there are no duplicates, so none of them is left of the one
    -- that is gone.
    have hnumbered : id ∈ (live.erase gone).filter (·.number != 0) :=
      List.mem_filter.mpr ⟨hid, bne_iff_ne.mpr hzero⟩
    rw [← List.erase_filter] at hnumbered
    have hne := (h.distinct.mem_erase_iff.mp hnumbered).1
    exact List.mem_filter.mpr
      ⟨h.complete id (List.mem_of_mem_erase hid) hzero, bne_iff_ne.mpr hne⟩
  distinct := h.distinct.sublist (List.erase_sublist.filter _)

end Shadowed

end TokenId

/-! ## The ids on both sides -/

namespace Roster

theorem spawn_ids (sprite : Sprite) (stem : String) (attrs : Attributes) (r : Roster)
    (cells : List Cell) :
    (r.spawn sprite stem attrs cells).ids = Lint.Ledger.mintOn stem cells.length r.ids := by
  induction cells generalizing r with
  | nil => rfl
  | cons cell cells ih =>
    rw [spawn, ih]
    simp [ids, Fighter.spawn, Fighter.withAttributes, Lint.Ledger.mintOn]

/-- The same fighters, in another state. -/
def Restated (r r' : Roster) : Prop := ∃ fighters, r' = { r with fighters } ∧ r'.ids = r.ids

theorem Restated.refl (r : Roster) : Restated r r := ⟨r.fighters, rfl, rfl⟩

theorem restated_change {r r' : Roster} {reference : String} {f : Fighter → Fighter}
    (hf : ∀ x, (f x).id = x.id) (h : r.change reference f = .ok r') : Restated r r' := by
  unfold change at h
  split at h
  · cases h
    exact ⟨_, rfl, map_updateFirst hf _⟩
  · cases h

/-- A roster that does not follow an instruction stays as it is. -/
theorem restated_follow {r : Roster} {i : Instruction}
    (h : ∀ r', r.step i = .ok r' → Restated r r') : Restated r (r.follow i) := by
  unfold follow
  split
  · rename_i r' hstep
    exact h r' hstep
  · exact .refl r

theorem restated_state (r : Roster) (attrs : Attributes) :
    Restated r (r.follow (.state attrs)) := by
  refine restated_follow fun r' h => ?_
  unfold step at h
  dsimp only at h
  split at h
  · exact restated_change (by intro x; rfl) h
  · cases h

theorem restated_move (r : Roster) (reference : String) (route : Route) :
    Restated r (r.follow (.move reference route)) := by
  refine restated_follow fun r' h => ?_
  unfold step at h
  dsimp only at h
  split at h
  · exact restated_change (by intro x; rfl) h
  · cases h

theorem fighter?_eq {r : Roster} (hexact : r.settings.byBeginning = false) (reference : String) :
    r.fighter? reference =
      (TokenId.ofText? reference).bind fun id => r.fighters.find? (·.id == id) := by
  rw [fighter?, hexact, Option.orElse_eq_orElse, Option.orElse_eq_or]
  exact Option.or_none

theorem ids_remove (r : Roster) (id : TokenId) : (r.remove id).ids = r.ids.filter (· != id) := by
  simp only [ids, remove, List.filter_map]
  rfl

end Roster

namespace World

/-- The same tokens, in another state. -/
def Restated (w w' : World) : Prop :=
  w'.scene.ids = w.scene.ids ∧ w'.sprites = w.sprites ∧ w'.board = w.board

theorem restated_state (rules : Rules) (w : World) (attrs : Attributes) :
    Restated w (w.state rules attrs).world :=
  state_cases (P := Restated w) ⟨rfl, rfl, rfl⟩ fun _ =>
    ⟨map_updateFirst (by intro t; rfl) _, rfl, rfl⟩

theorem restated_move (rules : Rules) (w : World) (reference : String) (route : Route) :
    Restated w (w.move rules reference route).world :=
  move_cases (P := Restated w) ⟨rfl, rfl, rfl⟩ fun _ _ _ _ => ⟨rfl, rfl, rfl⟩

theorem resolve?_eq (w : World) (reference : String) :
    w.resolve? false reference =
      (TokenId.ofText? reference).filter fun id => (w.scene.token? id).isSome := by
  rw [resolve?, Option.orElse_eq_orElse, Option.orElse_eq_or]
  exact Option.or_none

end World

/-! ## The relation -/

/-- World and roster have the same definitions and board, and the roster shadows the tokens. -/
structure Shadows (w : World) (r : Roster) : Prop extends SameView w r where
  ids : TokenId.Shadowed w.scene.ids r.ids

namespace Shadows

variable {w w' : World} {r r' : Roster}

theorem empty (settings : Settings) : Shadows .empty (.empty settings) :=
  ⟨⟨rfl, rfl, rfl, rfl⟩, .nil⟩

theorem restated (h : Shadows w r) (hw : w.Restated w') (hr : r.Restated r') : Shadows w' r' := by
  obtain ⟨hids, hsprites, hboard⟩ := hw
  obtain ⟨fighters, rfl, hknown⟩ := hr
  refine ⟨⟨?_, ?_, ?_, ?_⟩, ?_⟩
  · rw [hsprites, h.sprites]
  · rw [hboard, h.cols]
  · rw [hboard, h.rows]
  · rw [hboard, h.grid]
  · rw [hids, hknown]
    exact h.ids

theorem spawn (h : Shadows w r) (sprite : Sprite) (stem : String) (attrs : Attributes)
    (cells : List Cell) :
    Shadows (World.spawnOn sprite stem attrs w cells) (r.spawn sprite stem attrs cells) := by
  obtain ⟨hboard, hsprites⟩ := World.spawnOn_frame sprite stem attrs w cells
  obtain ⟨fighters, hfighters⟩ := r.spawn_view sprite stem attrs cells
  refine ⟨⟨?_, ?_, ?_, ?_⟩, ?_⟩
  · rw [hsprites, hfighters, h.sprites]
  · rw [hboard, hfighters, h.cols]
  · rw [hboard, hfighters, h.rows]
  · rw [hboard, hfighters, h.grid]
  · rw [World.spawnOn_ids, Roster.spawn_ids]
    exact h.ids.mintOn stem cells.length

theorem remove (h : Shadows w r) (id : TokenId) :
    Shadows { w with scene := w.scene.remove id } (r.remove id) := by
  refine ⟨⟨h.sprites, h.cols, h.rows, h.grid⟩, ?_⟩
  rw [Scene.ids_remove, Roster.ids_remove]
  exact h.ids.remove id

/-- The world removes a token with an id that no fighter has any more. -/
theorem forget (h : Shadows w r) {id : TokenId} (hid : id ∉ r.ids) :
    Shadows { w with scene := w.scene.remove id } r := by
  refine ⟨⟨h.sprites, h.cols, h.rows, h.grid⟩, ?_⟩
  have hsame : r.ids.filter (· != id) = r.ids :=
    List.filter_eq_self.mpr fun other hother =>
      bne_iff_ne.mpr fun heq => hid (heq ▸ hother)
  rw [Scene.ids_remove, ← hsame]
  exact h.ids.remove id

end Shadows

theorem JointChange.shadows {i : Instruction} {w w' : World} {r r' : Roster}
    (change : JointChange i w r w' r') (h : Shadows w r) : Shadows w' r' := by
  cases change with
  | kept tokens walks fighters sprites cols rows grid =>
    refine ⟨⟨sprites, cols, rows, grid⟩, ?_⟩
    rw [Scene.ids, tokens, Roster.ids, fighters]
    exact h.ids
  | spawned sprite stem sprites cells =>
    have hdefined : Shadows { w with sprites } { r with sprites } :=
      ⟨⟨rfl, h.cols, h.rows, h.grid⟩, h.ids⟩
    exact hdefined.spawn sprite stem i.given cells
  | altered id =>
    exact h.restated ⟨map_updateFirst (by intro t; rfl) _, rfl, rfl⟩
      ⟨_, rfl, map_updateFirst (by intro f; rfl) _⟩
  | sent walk cell ends =>
    exact h.restated ⟨rfl, rfl, rfl⟩ ⟨_, rfl, map_updateFirst (by intro f; rfl) _⟩
  | removed id => exact h.remove id
  | cleared => exact ⟨⟨h.sprites, h.cols, h.rows, h.grid⟩, .nil⟩
  | wiped => exact .empty r.settings

namespace Shadows

variable {w : World} {r : Roster}

theorem removeStep {rules : Rules} (h : Shadows w r) (hrules : rules.byBeginning = false)
    (hexact : r.settings.byBeginning = false) (reference : String) :
    Shadows (w.step rules (.remove reference)).world (r.follow (.remove reference)) := by
  have hfollow : r.follow (.remove reference) =
      (r.fighter? reference).elim r fun f => r.remove f.id := by
    unfold Roster.follow Roster.step
    dsimp only
    cases r.fighter? reference <;> rfl
  rw [hfollow, Roster.fighter?_eq hexact, World.step, World.withToken, hrules, World.resolve?_eq]
  cases TokenId.ofText? reference with
  | none => exact h
  | some id =>
    rw [Option.bind_some]
    -- A fighter with the id has its token. A token with the id may have lost its fighter.
    cases hfind : r.fighters.find? (·.id == id) with
    | some f =>
      obtain rfl : f.id = id := by simpa using List.find?_some hfind
      have hlive : f.id ∈ w.scene.ids :=
        h.ids.subset (List.mem_map_of_mem (List.mem_of_find?_eq_some hfind))
      rw [Option.filter_some_pos (by simpa using Scene.token?_isSome_iff.mpr hlive)]
      exact h.remove f.id
    | none =>
      have hunknown : id ∉ r.ids := by
        rintro hid
        obtain ⟨f, hf, rfl⟩ := List.mem_map.mp hid
        exact List.find?_eq_none.mp hfind f hf (beq_self_eq_true _)
      by_cases hlive : (w.scene.token? id).isSome = true
      · rw [Option.filter_some_pos (by simpa using hlive)]
        exact h.forget hunknown
      · rw [Option.filter_some_neg (by simpa using hlive)]
        exact h

theorem after {rules : Rules} (h : Shadows w r) (hrules : rules.byBeginning = false)
    (hexact : r.settings.byBeginning = false) (i : Instruction) :
    Shadows (w.after rules i) (r.follow i) := by
  rw [World.after_eq_step]
  cases i with
  | state attrs => exact h.restated (w.restated_state rules attrs) (r.restated_state attrs)
  | move reference route =>
    exact h.restated (w.restated_move rules reference route) (r.restated_move reference route)
  | remove reference => exact h.removeStep hrules hexact reference
  | _ => exact (h.toSameView.step rfl).shadows h

/-! ## Batches and ticks -/

theorem run {rules : Rules} {batch : List Instruction} (h : Shadows w r)
    (hrules : rules.byBeginning = false) (hexact : r.settings.byBeginning = false) :
    Shadows (World.run rules w batch).1 (r.apply batch).1 := by
  rw [Roster.apply_eq_foldl]
  induction batch generalizing w r with
  | nil => exact h
  | cons i batch ih =>
    rw [World.run_cons, List.foldl_cons]
    exact ih (h.after hrules hexact i) ((r.follow_settings i).symm ▸ hexact)

theorem apply {rules : Rules} {batch : List Instruction} (h : Shadows w r)
    (hrules : rules.byBeginning = false) (hexact : r.settings.byBeginning = false) :
    Shadows (w.apply rules batch).1 (r.apply batch).1 := by
  cases batch with
  | nil => exact h
  | cons i batch =>
    have hrun : Shadows (World.run rules w (i :: batch)).1 (r.apply (i :: batch)).1 :=
      h.run hrules hexact
    rw [World.apply_of_ne_nil (List.cons_ne_nil i batch)]
    exact ⟨hrun.toSameView.fillFlat, hrun.ids⟩

theorem tick (h : Shadows w r) (c : Clock Float) (seconds : Float) :
    Shadows (w.tick c seconds).1 r := by
  refine ⟨⟨h.sprites, h.cols, h.rows, h.grid⟩, ?_⟩
  have hids : (w.tick c seconds).1.scene.ids = w.scene.ids := Clock.tick_ids ..
  rw [hids]
  exact h.ids

end Shadows

end Tabletop
