import Tabletop.Proofs.Reachable

/-!
# Effects at tokens

An attack makes an effect that begins at one token and ends at another. When all tokens are cleared,
such effects go with them; when one token is removed, its walk goes and its effects stay.

* `Scene.Anchored`: the tokens that effects begin or end at are live.
* `World.strands`: an instruction takes such a token away. Only a removal can do so, and it is all
  that can go wrong (`World.anchored_after_iff`).
* `World.anchored_iff`: effects stay at live tokens in exactly those batches that spare the tokens
  of effects.
-/

namespace Tabletop

variable {α : Type}

/-- The effect begins or ends at the token. -/
def Effect.isAt (e : Effect α) (id : TokenId) : Bool :=
  e.source == .token id || e.target == .token id

theorem Effect.isAt_iff {e : Effect α} {id : TokenId} :
    e.isAt id = true ↔ e.source = .token id ∨ e.target = .token id := by
  simp [isAt]

/-! ## Scenes -/

namespace Scene

def Anchored (s : Scene α) : Prop := ∀ e ∈ s.effects, ∀ id, e.isAt id = true → id ∈ s.ids

theorem anchored_empty : (empty : Scene α).Anchored := by
  intro e he
  cases he

/-- Effects may go, and tokens may come. -/
theorem Anchored.mono {s s' : Scene α} (h : s.Anchored) (effects : s'.effects ⊆ s.effects)
    (ids : s.ids ⊆ s'.ids) : s'.Anchored :=
  fun e he id hat => ids (h e (effects he) id hat)

/-- An effect that is left begins and ends at cells. -/
theorem anchored_clearTokens (s : Scene α) : s.clearTokens.Anchored := by
  intro e he id hat
  obtain ⟨-, hcells⟩ := List.mem_filter.mp he
  rcases Effect.isAt_iff.mp hat with hsource | htarget
  · simp [hsource, Anchor.isToken] at hcells
  · simp [htarget, Anchor.isToken] at hcells

/-- The tokens that are left keep their ids. What counts is whether the token that goes was the only
one with its id. -/
theorem Anchored.remove_iff {s : Scene α} (h : s.Anchored) {id : TokenId} (hid : id ∈ s.ids) :
    (s.remove id).Anchored ↔ ¬ (s.ids.count id = 1 ∧ ∃ e ∈ s.effects, e.isAt id = true) := by
  have hcount : id ∈ (s.remove id).ids ↔ s.ids.count id ≠ 1 := by
    have hpos := List.count_pos_iff.mpr hid
    rw [ids_remove, ← List.count_pos_iff, List.count_erase_self]
    omega
  constructor
  · rintro hleft ⟨hone, e, he, hat⟩
    rw [← effects_remove s id] at he
    exact hcount.mp (hleft e he id hat) hone
  · intro hspared e he id' hat
    rw [effects_remove] at he
    by_cases hsame : id' = id
    · rw [hsame] at hat ⊢
      exact hcount.mpr fun hone => hspared ⟨hone, e, he, hat⟩
    · rw [ids_remove, List.mem_erase_of_ne hsame]
      exact h e he id' hat

theorem Anchored.tick [Quantity α] {s : Scene α} (h : s.Anchored) (c : Clock α) (seconds : α) :
    (c.tick s seconds).1.Anchored := by
  intro e he id hat
  obtain ⟨hmem, -⟩ := List.mem_filter.mp he
  obtain ⟨young, hyoung, rfl⟩ := List.mem_map.mp hmem
  rw [c.tick_ids seconds]
  exact h young hyoung id hat

end Scene

namespace World

def Anchored (w : World) : Prop := w.scene.Anchored

/-! ## Single instructions -/

/-- The instruction removes the only token with an id at which an effect begins or ends. -/
def strands (rules : Rules) (w : World) : Instruction → Bool
  | .remove reference =>
    match w.resolve? rules.byBeginning reference with
    | some id => w.scene.ids.count id == 1 && w.scene.effects.any (·.isAt id)
    | none => false
  | _ => false

theorem Anchored.addEffect {w : World} (h : w.Anchored) {source target : Anchor}
    (hends : ∀ id, source = .token id ∨ target = .token id → id ∈ w.scene.ids) (kind : String)
    (speed duration : Float) :
    (w.addEffect kind source target speed duration).Anchored := by
  intro e he id hat
  rcases List.mem_append.mp he with he | he
  · exact h e he id hat
  · rw [List.mem_singleton.mp he] at hat
    exact hends id (Effect.isAt_iff.mp hat)

theorem Anchored.spawned {w : World} (h : w.Anchored) (sprite : Sprite) (stem : String)
    (attrs : Attributes) (sprites : List Sprite) (cells : List Cell) :
    (spawnOn sprite stem attrs { w with sprites } cells).Anchored := by
  have heffects := (spawnOn_effects sprite stem attrs { w with sprites } cells).1
  refine h.mono (by rw [heffects]; exact List.Subset.refl _) ?_
  rw [spawnOn_ids]
  exact (Lint.Ledger.prefix_mintOn stem cells.length w.scene.ids).subset

theorem anchored_remove_iff {rules : Rules} {w : World} (h : w.Anchored)
    (reference : String) :
    (w.step rules (.remove reference)).world.Anchored ↔
      w.strands rules (.remove reference) = false := by
  simp only [step, withToken, strands]
  cases hid : w.resolve? rules.byBeginning reference with
  | none => exact iff_of_true h rfl
  | some id =>
    refine (h.remove_iff (resolve?_mem hid)).trans ?_
    rw [← Bool.not_eq_true, Bool.and_eq_true, beq_iff_eq, List.any_eq_true]

theorem anchored_step {rules : Rules} {w : World} (h : w.Anchored) {i : Instruction}
    (hi : w.strands rules i = false) : (w.step rules i).world.Anchored := by
  cases i with
  | place code cells =>
    exact place_cases h fun _ sprites _ => h.spawned _ _ _ sprites _
  | create attrs target =>
    exact create_cases h fun _ _ _ _ sprites _ _ => h.spawned _ _ _ sprites _
  | heightRandom seed min max => exact heightRandom_cases h fun _ => h
  | state attrs =>
    refine state_cases h fun id => h.mono (List.Subset.refl _) ?_
    rw [Scene.ids, Scene.ids, map_updateFirst (by intro t; rfl)]
    exact List.Subset.refl _
  | move id route => exact move_cases h fun _ _ _ _ => h
  | attack attacker target kind speed duration =>
    refine attack_cases h fun source hsource target htarget _ _ _ => ?_
    refine h.addEffect (fun id hends => ?_) _ _ _
    rcases hends with he | he
    · cases he
      exact hsource
    · cases he
      exact htarget
  | effect kind cell duration speed =>
    refine h.addEffect (fun id hends => ?_) _ _ _
    rcases hends with he | he
    · cases he
    · cases he
  | remove reference => exact (anchored_remove_iff h reference).mpr hi
  | clear scope =>
    cases scope with
    | tokens => exact w.scene.anchored_clearTokens
    | all => exact Scene.anchored_empty
  | reset => exact Scene.anchored_empty
  | _ => exact h

theorem anchored_after_iff {rules : Rules} {w : World} (h : w.Anchored) (i : Instruction) :
    (w.after rules i).Anchored ↔ w.strands rules i = false := by
  rw [after_eq_step]
  refine ⟨fun hafter => ?_, anchored_step h⟩
  cases i with
  | remove reference => exact (anchored_remove_iff h reference).mp hafter
  | _ => rfl

/-! ## Batches -/

/-- No instruction of the batch strands an effect. -/
def Spares (rules : Rules) : World → List Instruction → Prop
  | _, [] => True
  | w, i :: batch => w.strands rules i = false ∧ (w.after rules i).Spares rules batch

instance decidableSpares (rules : Rules) :
    (w : World) → (batch : List Instruction) → Decidable (w.Spares rules batch)
  | _, [] => isTrue trivial
  | w, i :: batch =>
    @instDecidableAnd _ _ _ (decidableSpares rules (w.after rules i) batch)

theorem anchored_run_iff {rules : Rules} {w : World} (h : w.Anchored)
    (batch : List Instruction) :
    (∀ done, done <+: batch → (run rules w done).1.Anchored) ↔ w.Spares rules batch := by
  induction batch generalizing w with
  | nil =>
    refine iff_of_true (fun done hdone => ?_) trivial
    rw [List.prefix_nil.mp hdone]
    exact h
  | cons i batch ih =>
    constructor
    · intro hall
      have hafter : (w.after rules i).Anchored := hall [i] (List.prefix_append [i] batch)
      refine ⟨(anchored_after_iff h i).mp hafter, (ih hafter).mp fun done hdone => ?_⟩
      exact hall (i :: done) (List.cons_prefix_cons.mpr ⟨rfl, hdone⟩)
    · rintro ⟨hi, hbatch⟩ done hdone
      have hafter := (anchored_after_iff h i).mpr hi
      cases done with
      | nil => exact h
      | cons j done =>
        obtain ⟨hj, htail⟩ := List.cons_prefix_cons.mp hdone
        rw [hj]
        exact (ih hafter).mpr hbatch done htail

/-- The end of a batch has no part in it. -/
theorem anchored_apply (rules : Rules) (w : World) (batch : List Instruction) :
    (w.apply rules batch).1.Anchored ↔ (run rules w batch).1.Anchored := by
  rw [Anchored, apply_scene, Anchored]

/-- The worlds that ticks lead to, and batches that strand no effect. -/
inductive Sparing : World → Prop where
  | empty : Sparing .empty
  | apply {w : World} (rules : Rules) (batch : List Instruction) (h : Sparing w)
      (spares : w.Spares rules batch) : Sparing (w.apply rules batch).1
  | tick {w : World} (c : Clock Float) (seconds : Float) (h : Sparing w) :
      Sparing (w.tick c seconds).1

theorem Sparing.anchored {w : World} (h : Sparing w) : w.Anchored := by
  induction h with
  | empty => exact Scene.anchored_empty
  | apply rules batch _ spares ih =>
    have hrun := (anchored_run_iff ih batch).mpr spares batch (List.prefix_refl batch)
    exact (anchored_apply rules _ batch).mpr hrun
  | tick c seconds _ ih => exact ih.tick c seconds

/-- As long as no removal takes the token of an effect, every effect that begins or ends at a token
does so at a live one; and the first such removal leaves an effect without its token. -/
theorem anchored_iff {w : World} (h : Sparing w) (rules : Rules) (batch : List Instruction) :
    w.Anchored ∧
      ((∀ done, done <+: batch → (w.apply rules done).1.Anchored) ↔
        w.Spares rules batch) := by
  refine ⟨h.anchored, ?_⟩
  simp only [anchored_apply]
  exact anchored_run_iff h.anchored batch

/-- A goblin is hit and the blow is over before the goblin is removed. -/
theorem anchored_iff_later :
    let rules : Rules := .ofSettings {} 0
    let fight : List Instruction :=
      [.place "goblin" [⟨0, 0⟩, ⟨1, 0⟩], .attack "goblin-1" "goblin-2" .physical none none]
    let struck := (World.empty.apply rules fight).1
    let later := (struck.tick (.ofSettings {}) 60).1
    Sparing later ∧ struck.effectIds = [1] ∧ later.Spares rules [.remove "goblin-2"] ∧
      (later.apply rules [.remove "goblin-2"]).1.scene.ids = [⟨"goblin", 1⟩] ∧
      (later.apply rules [.remove "goblin-2"]).1.Anchored := by
  intro rules fight struck later
  have hfight : World.empty.Spares rules fight := by decide +kernel
  have hlater : Sparing later := (Sparing.empty.apply rules fight hfight).tick _ 60
  have hspares : later.Spares rules [.remove "goblin-2"] := by decide +kernel
  obtain ⟨-, hiff⟩ := anchored_iff hlater rules [.remove "goblin-2"]
  refine ⟨hlater, by decide +kernel, hspares, by decide +kernel, ?_⟩
  exact hiff.mpr hspares _ (List.prefix_refl _)

/-- A goblin is hit and removed while the blow is on its way, which then has no token to end at. -/
theorem not_anchored_removed :
    ∃ w : World, Reachable w ∧ w.scene.ids = [⟨"goblin", 1⟩] ∧
      w.scene.effects.map (fun e => (e.source, e.target)) =
        [(.token ⟨"goblin", 1⟩, .token ⟨"goblin", 2⟩)] ∧
      ¬ w.Anchored := by
  let rules : Rules := .ofSettings {} 0
  let batch : List Instruction :=
    [.place "goblin" [⟨0, 0⟩, ⟨1, 0⟩], .attack "goblin-1" "goblin-2" .physical none none,
      .remove "goblin-2"]
  have hroom : World.empty.StaysRoomy rules batch := by decide +kernel
  have hids : (World.empty.apply rules batch).1.scene.ids = [⟨"goblin", 1⟩] := by decide +kernel
  have heffects : (World.empty.apply rules batch).1.scene.effects.map
      (fun e => (e.source, e.target)) =
        [(.token ⟨"goblin", 1⟩, .token ⟨"goblin", 2⟩)] := by decide +kernel
  refine ⟨_, Reachable.empty.apply rules batch hroom, hids, heffects, fun hanchored => ?_⟩
  obtain ⟨e, he, hends⟩ : ∃ e ∈ (World.empty.apply rules batch).1.scene.effects,
      (e.source, e.target) = (Anchor.token ⟨"goblin", 1⟩, Anchor.token ⟨"goblin", 2⟩) := by
    apply List.mem_map.mp
    rw [heffects]
    exact List.mem_singleton_self _
  have hgone := hanchored e he ⟨"goblin", 2⟩ (Effect.isAt_iff.mpr (.inr (congrArg Prod.snd hends)))
  rw [hids] at hgone
  exact absurd hgone (by decide)

end World

end Tabletop
