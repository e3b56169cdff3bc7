import Tabletop.Proofs.World

/-!
# Worlds that can be reached

Batches change a world and the clock moves it on. What every world that starts out empty keeps
through both, in whatever order they come:

* `World.Attained`: the worlds that batches and ticks lead to. Rules and clock may be others each
  time. `Attained.of_steps` is the induction on such runs, for what every single instruction keeps.
* `World.Reachable`: the same, as long as the numbers of tokens last.
* `World.Numbered`: effects stand in the order of their ids, and the world remembers the last one.
  `EffectChange` lists what an instruction can do to effects.
* `World.Reachable.wellFormed`, `World.Reachable.numbered`: tokens, walks and effects of such a
  world.
-/

namespace Tabletop

namespace World

/-! ## Effects -/

def effectIds (w : World) : List Nat := w.scene.effects.map (·.id)

structure Numbered (w : World) : Prop where
  ascending : w.effectIds.Pairwise (· < ·)
  atMost : ∀ id ∈ w.effectIds, id ≤ w.lastEffect

theorem numbered_empty : Numbered .empty where
  ascending := .nil
  atMost := by simp [effectIds, empty, Scene.empty]

/-- Effects may go at any time. -/
theorem Numbered.fewer {w w' : World} (h : w.Numbered) (ids : w'.effectIds.Sublist w.effectIds)
    (last : w'.lastEffect = w.lastEffect) : w'.Numbered where
  ascending := h.ascending.sublist ids
  atMost id hid := last ▸ h.atMost id (ids.subset hid)

theorem addEffect_ids (w : World) (kind : String) (source target : Anchor)
    (speed duration : Float) :
    (w.addEffect kind source target speed duration).effectIds =
      w.effectIds ++ [w.lastEffect + 1] := by
  simp [addEffect, effectIds]

theorem Numbered.addEffect {w : World} (h : w.Numbered) (kind : String) (source target : Anchor)
    (speed duration : Float) : (w.addEffect kind source target speed duration).Numbered where
  ascending := by
    rw [addEffect_ids, List.pairwise_append]
    refine ⟨h.ascending, List.pairwise_singleton _ _, fun a ha b hb => ?_⟩
    rw [List.mem_singleton.mp hb]
    exact Nat.lt_succ_of_le (h.atMost a ha)
  atMost id hid := by
    rw [addEffect_ids, List.mem_append, List.mem_singleton] at hid
    rcases hid with hid | rfl
    · exact Nat.le_succ_of_le (h.atMost id hid)
    · exact Nat.le_refl _

/-- What one instruction can do to the effects of a world. -/
inductive EffectChange (w : World) : World → Prop where
  | fewer {w' : World} (effects : w'.scene.effects.Sublist w.scene.effects)
      (last : w'.lastEffect = w.lastEffect) : EffectChange w w'
  | added (kind : String) (source target : Anchor) (speed duration : Float) :
      EffectChange w (w.addEffect kind source target speed duration)
  | wiped : EffectChange w .empty

theorem EffectChange.kept {w w' : World} (effects : w'.scene.effects = w.scene.effects)
    (last : w'.lastEffect = w.lastEffect) : EffectChange w w' :=
  .fewer (by rw [effects]) last

theorem EffectChange.numbered {w w' : World} (h : EffectChange w w') (hw : w.Numbered) :
    w'.Numbered := by
  cases h with
  | fewer effects last => exact hw.fewer (effects.map Effect.id) last
  | added kind source target speed duration => exact hw.addEffect kind source target speed duration
  | wiped => exact numbered_empty

theorem spawnOn_effects (sprite : Sprite) (stem : String) (attrs : Attributes) (w : World)
    (cells : List Cell) :
    (spawnOn sprite stem attrs w cells).scene.effects = w.scene.effects ∧
      (spawnOn sprite stem attrs w cells).lastEffect = w.lastEffect := by
  induction cells generalizing w with
  | nil => exact ⟨rfl, rfl⟩
  | cons cell cells ih => exact ih (w.addToken _)

theorem effectChange_spawnOn (sprite : Sprite) (stem : String) (attrs : Attributes) (w : World)
    (sprites : List Sprite) (cells : List Cell) :
    EffectChange w (spawnOn sprite stem attrs { w with sprites } cells) :=
  let ⟨effects, last⟩ := spawnOn_effects sprite stem attrs { w with sprites } cells
  .kept effects last

theorem effectChange_step (rules : Rules) (w : World) (i : Instruction) :
    EffectChange w (w.step rules i).world := by
  have same : EffectChange w w := .kept rfl rfl
  cases i with
  | place code cells => exact place_cases same fun _ _ _ => effectChange_spawnOn _ _ _ _ _ _
  | create attrs target =>
    exact create_cases same fun _ _ _ _ _ _ _ => effectChange_spawnOn _ _ _ _ _ _
  | heightRandom seed min max => exact heightRandom_cases same fun _ => .kept rfl rfl
  | state attrs => exact state_cases same fun _ => .kept rfl rfl
  | move id route => exact move_cases same fun _ _ _ _ => .kept rfl rfl
  | attack attacker target kind speed duration =>
    exact attack_cases same fun _ _ _ _ _ _ _ => .added _ _ _ _ _
  | effect kind cell duration speed => exact .added _ _ _ _ _
  | remove id => exact withToken_cases same fun id _ => .kept (w.scene.effects_remove id) rfl
  | clear scope =>
    cases scope with
    | tokens => exact .fewer List.filter_sublist rfl
    | all => exact .wiped
  | reset => exact .wiped
  | _ => exact .kept rfl rfl

/-- The clock makes effects older and takes some of them away. -/
theorem Numbered.tick {w : World} (h : w.Numbered) (c : Clock Float) (seconds : Float) :
    (w.tick c seconds).1.Numbered := by
  refine h.fewer ?_ rfl
  have hids : w.effectIds =
      (w.scene.effects.map (Clock.older (c.elapsed seconds))).map (·.id) := by
    rw [List.map_map]
    rfl
  rw [hids]
  exact List.filter_sublist.map _

/-! ## Runs of a world -/

/-- The worlds that batches and ticks lead to. -/
inductive Attained : World → Prop where
  | empty : Attained .empty
  | apply {w : World} (rules : Rules) (batch : List Instruction) (h : Attained w) :
      Attained (w.apply rules batch).1
  | tick {w : World} (c : Clock Float) (seconds : Float) (h : Attained w) :
      Attained (w.tick c seconds).1

/-- What every single instruction keeps is kept by a batch. -/
theorem run_of_steps {P : World → Prop} {rules : Rules}
    (hafter : ∀ w i, P w → P (w.after rules i)) {w : World} (h : P w) (batch : List Instruction) :
    P (run rules w batch).1 := by
  induction batch generalizing w with
  | nil => exact h
  | cons i batch ih =>
    rw [run_cons]
    exact ih (hafter w i h)

/-- What holds of the empty world and is kept by every instruction, by the end of a batch and by the
clock. -/
theorem Attained.of_steps {P : World → Prop} (hempty : P .empty)
    (hafter : ∀ rules w i, P w → P (w.after rules i))
    (hfill : ∀ w, P w → P { w with board := w.board.fillFlat })
    (htick : ∀ w c seconds, P w → P (World.tick w c seconds).1) {w : World} (h : Attained w) :
    P w := by
  induction h with
  | empty => exact hempty
  | apply rules batch _ ih =>
    by_cases hne : batch = []
    · rw [hne]
      exact ih
    · rw [apply_of_ne_nil hne]
      exact hfill _ (run_of_steps (hafter rules) ih batch)
  | tick c seconds _ ih => exact htick _ c seconds ih

theorem Attained.numbered {w : World} (h : Attained w) : w.Numbered := by
  refine h.of_steps numbered_empty (fun rules w i hw => ?_) (fun w hw => ?_) fun w c seconds hw => ?_
  · rw [after_eq_step]
    exact (effectChange_step rules w i).numbered hw
  · exact hw.fewer (List.Sublist.refl _) rfl
  · exact hw.tick c seconds

/-- The worlds that batches and ticks lead to, as long as no token ever gets the last number that
there is. -/
inductive Reachable : World → Prop where
  | empty : Reachable .empty
  | apply {w : World} (rules : Rules) (batch : List Instruction) (h : Reachable w)
      (room : w.StaysRoomy rules batch) : Reachable (w.apply rules batch).1
  | tick {w : World} (c : Clock Float) (seconds : Float) (h : Reachable w) :
      Reachable (w.tick c seconds).1

theorem Reachable.wellFormed {w : World} (h : Reachable w) : w.scene.WellFormed := by
  induction h with
  | empty => exact Scene.wellFormed_empty
  | apply rules batch _ room ih => exact wellFormed_apply ih room
  | tick c seconds _ ih => exact ih.tick c seconds

theorem Reachable.attained {w : World} (h : Reachable w) : Attained w := by
  induction h with
  | empty => exact .empty
  | apply rules batch _ _ ih => exact ih.apply rules batch
  | tick c seconds _ ih => exact ih.tick c seconds

theorem Reachable.numbered {w : World} (h : Reachable w) : w.Numbered := h.attained.numbered

/-- In every world that batches and ticks lead to, all tokens have ids of their own, a token is on
one walk at most, every walk is that of a live token and has a waypoint ahead, and effects stand in
the order of their ids, none of which is past the last one given out. -/
theorem reachable_sound {w : World} (h : Reachable w) :
    w.scene.ids.Nodup ∧
      ((w.scene.walks.map (·.token)).Nodup ∧
        ∀ walk ∈ w.scene.walks, walk.token ∈ w.scene.ids ∧ walk.index < walk.path.length) ∧
      (w.scene.effects.map (·.id)).Pairwise (· < ·) ∧
      ∀ e ∈ w.scene.effects, e.id ≤ w.lastEffect := by
  have hscene := h.wellFormed
  have heffects := h.numbered
  refine ⟨hscene.distinct, ⟨hscene.oneWalkEach, fun walk hwalk => ?_⟩, heffects.ascending,
    fun e he => ?_⟩
  · exact ⟨hscene.walkersLive walk hwalk, hscene.underway walk hwalk⟩
  · exact heffects.atMost e.id (List.mem_map_of_mem he)

/-- A goblin is sent out, hits another one, is removed on its way and comes again under the same id:
it is not on the way that the one before was on. The blow and the smoke after it have the ids 1
and 2. -/
theorem reachable_sound_again :
    ∃ w : World, Reachable w ∧ w.scene.ids = [⟨"G", 1⟩, ⟨"G", 2⟩] ∧ w.scene.walks = [] ∧
      w.effectIds = [1, 2] ∧ w.scene.ids.Nodup ∧
      (∀ walk ∈ w.scene.walks, walk.token ∈ w.scene.ids) ∧
      w.effectIds.Pairwise (· < ·) := by
  let rules : Rules := .ofSettings {} 0
  let march : List Instruction :=
    [.board 9 1, .spriteDef "G" ∅, .place "G" [⟨0, 0⟩, ⟨1, 0⟩], .move "G-2" (.to ⟨8, 0⟩),
      .attack "G-2" "G-1" .physical none none]
  let again : List Instruction :=
    [.remove "G-2", .place "G" [⟨3, 0⟩], .effect "smoke" ⟨4, 0⟩ none none]
  have hmarch : World.empty.StaysRoomy rules march := by decide +kernel
  have hunderway := (Reachable.empty.apply rules march hmarch).tick (.ofSettings {}) 0.5
  have hagain : (((World.empty.apply rules march).1.tick (.ofSettings {}) 0.5).1).StaysRoomy rules
      again := by decide +kernel
  have hreach := hunderway.apply rules again hagain
  obtain ⟨hdistinct, ⟨-, hwalks⟩, hordered, -⟩ := reachable_sound hreach
  refine ⟨_, hreach, ?_, ?_, ?_, hdistinct, fun walk hwalk => (hwalks walk hwalk).1, hordered⟩
  · decide +kernel
  · decide +kernel
  · decide +kernel

end World

end Tabletop
