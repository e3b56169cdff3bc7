import Tabletop.Proofs.Ground
import Tabletop.Proofs.Replication

/-!
# A follower that has caught up

A follower gets the instructions of several batches in one, so the ends of the leader's batches are
not ends of its own. Its world is that of the leader except for the ground.

* `Instruction.isSeeded`: without random terrain from the clock, rules that differ in the clock lead
  to the same world.
* `Follows` is the invariant: what a follower has applied leads to the world of the leader's batches
  up to its version.
* After a poll the worlds are equal exactly if the ends of the batches have laid the same ground;
  all else is always equal, and so is the height of every cell.
-/

namespace Tabletop

/-! ## Seeds -/

/-- Whether an instruction does without a seed from the clock. -/
def Instruction.isSeeded : Instruction → Bool
  | .heightRandom none _ _ => false
  | _ => true

namespace World

variable {settings : Settings}

theorem step_of_seeded (a b : UInt64) (w : World) {i : Instruction} (h : i.isSeeded = true) :
    w.step (.ofSettings settings a) i = w.step (.ofSettings settings b) i := by
  cases i with
  | heightRandom seed =>
    cases seed with
    | none => cases h
    | some seed => rfl
  | clear scope =>
    cases scope with
    | tokens => rfl
    | all => rfl
  | _ => rfl

theorem run_of_seeded (a b : UInt64) (w : World) {batch : List Instruction}
    (h : ∀ i ∈ batch, i.isSeeded = true) :
    run (.ofSettings settings a) w batch = run (.ofSettings settings b) w batch := by
  induction batch generalizing w with
  | nil => rfl
  | cons i batch ih =>
    have hrest := fun w' => ih w' fun j hj => h j (List.mem_cons_of_mem i hj)
    rw [run, run, stepInBatch, stepInBatch, step_of_seeded a b w (h i List.mem_cons_self)]
    simp only [hrest]

theorem apply_eq_of_seeded (a b : UInt64) (w : World) {batch : List Instruction}
    (h : ∀ i ∈ batch, i.isSeeded = true) :
    w.apply (.ofSettings settings a) batch = w.apply (.ofSettings settings b) batch := by
  rw [apply, apply, run_of_seeded a b w h]

theorem apply_of_seeded (a b : UInt64) (w : World) {batch : List Instruction}
    (h : ∀ i ∈ batch, i.isSeeded = true) :
    (w.apply (.ofSettings settings a) batch).1 = (w.apply (.ofSettings settings b) batch).1 :=
  congrArg Prod.fst (apply_eq_of_seeded a b w h)

end World

/-! ## The leader's world -/

/-- A world by a fixed seed of the clock, where the batches do without it. -/
def Leader.Seeded (settings : Settings) (l : Leader) : Prop :=
  (∀ i ∈ l.batches.flatten, i.isSeeded = true) →
    ∀ clockSeed, (Site.of (.ofSettings settings clockSeed) l.batches).Shows l.world

namespace Leader.Seeded

variable {settings : Settings} {l l' : Leader}

theorem start (token : RefreshToken) : (Leader.start token).Seeded settings :=
  fun _ _ => Site.shows_empty

theorem commit {clockSeed : UInt64} {fresh : RefreshToken} (h : l.Seeded settings)
    (batch : List Instruction) : (l.commit settings clockSeed fresh batch).Seeded settings := by
  by_cases hne : batch = []
  · rw [hne]
    exact h
  · intro hseeded seed
    rw [commit_batches hne] at hseeded ⊢
    rw [List.flatten_append, List.flatten_singleton] at hseeded
    have hshows := h (fun i hi => hseeded i (List.mem_append_left _ hi)) seed
    rw [Leader.commit, World.apply_of_seeded clockSeed seed _ fun i hi =>
      hseeded i (List.mem_append_right _ hi), Site.of, List.foldl_append]
    exact hshows.apply batch

theorem later (h : l.Seeded settings) (later : l.Later settings l') : l'.Seeded settings := by
  induction later with
  | now => exact h
  | commit clockSeed fresh batch _ ih => exact ih.commit batch

end Leader.Seeded

/-! ## The follower's world -/

/-- What a follower has applied comes from the leader's batches and leads to the world of those up
to its version. -/
structure Follows (l : Leader) (r : Replica) : Prop where
  version : r.follower.version ≤ l.journal.version
  known : ∀ i ∈ r.lots.flatten, i ∈ l.batches.flatten
  leads : ∀ rules, (World.run rules .empty r.lots.flatten).1 =
    (World.run rules .empty (l.batches.take r.follower.version).flatten).1

namespace Follows

variable {settings : Settings} {l l' : Leader} {r : Replica}

theorem start (token : RefreshToken) (rules : Rules) :
    Follows (.start token) (.start rules) where
  version := Nat.le_refl 0
  known _ hi := by cases hi
  leads _ := rfl

theorem commit {clockSeed : UInt64} {fresh : RefreshToken} (h : Follows l r) (hl : l.Sound)
    (batch : List Instruction) : Follows (l.commit settings clockSeed fresh batch) r := by
  by_cases hne : batch = []
  · rw [hne]
    exact h
  · refine ⟨?_, fun i hi => ?_, fun rules => ?_⟩
    · rw [Leader.commit, Journal.version_append fresh hne]
      exact Nat.le_succ_of_le h.version
    · rw [Leader.commit_batches hne, List.flatten_append]
      exact List.mem_append_left _ (h.known i hi)
    · rw [Leader.commit_batches hne,
        List.take_append_of_le_length (hl.keeps.version ▸ h.version)]
      exact h.leads rules

theorem later (h : Follows l r) (hl : l.Sound) (later : l.Later settings l') : Follows l' r := by
  induction later with
  | now => exact h
  | commit clockSeed fresh batch before ih => exact ih.commit (hl.later before) batch

/-- A follower that is at the version of the journal. -/
theorem of_newest {follower : Follower} {lots : List (List Instruction)} (hl : l.Sound)
    (version : follower.version = l.journal.version)
    (known : ∀ i ∈ lots.flatten, i ∈ l.batches.flatten)
    (leads : ∀ rules, (World.run rules .empty lots.flatten).1 =
      (World.run rules .empty l.batches.flatten).1) : Follows l ⟨follower, lots⟩ where
  version := Nat.le_of_eq version
  known := known
  leads rules := by
    dsimp only
    rw [version, hl.keeps.version, List.take_length]
    exact leads rules

/-- A follower that has applied what it had missed. -/
theorem caughtUp (h : Follows l r) (hl : l.Sound) {follower : Follower}
    (version : follower.version = l.journal.version) :
    Follows l ⟨follower, r.lots ++ [(l.journal.since r.follower.version).instructions]⟩ := by
  refine of_newest hl version (fun i hi => ?_) fun rules => ?_
  · rw [List.flatten_append, List.flatten_singleton] at hi
    rcases List.mem_append.mp hi with hi | hi
    · exact h.known i hi
    · exact hl.keeps.known _ i hi
  · rw [List.flatten_append, List.flatten_singleton, World.run_append, h.leads]
    exact hl.keeps.leads rules _ h.version

/-- A follower that has begun again with everything. -/
theorem reloaded (hl : l.Sound) {follower : Follower}
    (version : follower.version = l.journal.version) :
    Follows l ⟨follower, [(l.journal.since 0).instructions]⟩ := by
  refine of_newest hl version (fun i hi => ?_) fun rules => ?_
  · rw [List.flatten_singleton] at hi
    exact hl.keeps.known _ i hi
  · rw [List.flatten_singleton]
    exact hl.keeps.leads rules 0 (Nat.zero_le _)

end Follows

namespace Reached

variable {settings : Settings} {l : Leader} {r : Replica}

theorem seeded (h : Reached settings l r) : l.Seeded settings := by
  induction h with
  | start token clockSeed => exact Leader.Seeded.start token
  | commit clockSeed fresh batch _ ih => exact ih.commit batch
  | poll first second _ later ih => exact ih.later later

theorem follows (h : Reached settings l r) : Follows l r := by
  induction h with
  | start token clockSeed => exact Follows.start token _
  | commit clockSeed fresh batch h ih => exact ih.commit h.sound batch
  | @poll l l' r first second h later ih =>
    cases r.pollCase (l.journal.answer first) (l'.journal.answer second) with
    | failed outcome result cause =>
      rw [result]
      exact ih.later h.sound later
    | caughtUp news answer known outcome requests result =>
      obtain ⟨-, rfl⟩ := Journal.answer_eq_some answer
      rw [result]
      exact (ih.caughtUp h.sound rfl).later h.sound later
    | reloaded news everything answer second unknown outcome requests result =>
      obtain ⟨-, rfl⟩ := Journal.answer_eq_some second
      rw [result]
      exact Follows.reloaded (h.sound.later later) rfl

theorem rules (h : Reached settings l r) :
    ∃ clockSeed, r.follower.rules = .ofSettings settings clockSeed := by
  induction h with
  | start token clockSeed => exact ⟨clockSeed, rfl⟩
  | commit clockSeed fresh batch _ ih => exact ih
  | @poll l l' r first second _ later ih =>
    cases r.pollCase (l.journal.answer first) (l'.journal.answer second) with
    | failed outcome result cause => rw [result]; exact ih
    | caughtUp news answer known outcome requests result => rw [result]; exact ih
    | reloaded news everything answer second unknown outcome requests result =>
      rw [result]
      exact ih

end Reached

/-! ## Equality -/

/-- A poll that the journal answers brings the follower to its version. -/
theorem Replica.poll_answered (l : Leader) (r : Replica) :
    let source := l.journal.answer true
    (r.follower.poll source source).outcome ≠ .failed ∧
      (r.poll source source).follower.rules = r.follower.rules ∧
      (r.poll source source).follower.version = l.journal.version := by
  intro source
  cases r.pollCase source source with
  | failed outcome result cause =>
    rcases cause with hnone | ⟨-, hnone⟩
    · cases Journal.answer_eq_none.mp hnone
    · cases Journal.answer_eq_none.mp hnone
  | caughtUp news answer known outcome requests result =>
    obtain ⟨-, rfl⟩ := Journal.answer_eq_some answer
    rw [result]
    exact ⟨outcome, rfl, rfl⟩
  | reloaded news everything answer second unknown outcome requests result =>
    obtain ⟨-, rfl⟩ := Journal.answer_eq_some second
    rw [result]
    exact ⟨outcome, rfl, rfl⟩

/-- A follower that polls the journal of its leader comes through. Apart from the entries for
heights its world is then that of the leader, every cell has the same height, and the worlds are
equal exactly if the board stays flat or the same cells without a height of their own have been
laid, by the ends of the leader's batches and by the ends of what the follower applied. -/
theorem caught_up_eq_iff {settings : Settings} {l : Leader} {r : Replica}
    (h : Reached settings l r) (hseeded : ∀ i ∈ l.batches.flatten, i.isSeeded = true) :
    let source := l.journal.answer true
    let w := (r.follower.poll source source).follower.world
    let ours := Site.of r.follower.rules l.batches
    let theirs := Site.of r.follower.rules (r.poll source source).lots
    (r.follower.poll source source).outcome ≠ .failed ∧
      w.setHeights ∅ = l.world.setHeights ∅ ∧
      (∀ c, w.board.heightAt c = l.world.board.heightAt c) ∧
      (w = l.world ↔ l.world.board.staysFlat = true ∨
        ∀ c, ours.bare.board.heights.get? c = none → (c ∈ theirs.ground ↔ c ∈ ours.ground)) := by
  intro source w ours theirs
  have hpoll := h.poll true true .now
  obtain ⟨hcomes, hsame, hversion⟩ := r.poll_answered l
  obtain ⟨clockSeed, hrules⟩ := h.rules
  have hours : ours.Shows l.world := by
    have hshows := h.seeded hseeded clockSeed
    rw [← hrules] at hshows
    exact hshows
  have htheirs : theirs.Shows w := by
    have hshows := Site.shows_of r.follower.rules (r.poll source source).lots
    rw [← hsame, ← hpoll.replay, hsame] at hshows
    exact hshows
  have hbare : theirs.bare = ours.bare := by
    have hleads := hpoll.follows.leads r.follower.rules
    rw [hversion, h.sound.keeps.version, List.take_length] at hleads
    rw [Site.of_bare, Site.of_bare]
    exact hleads
  have hflat : ours.bare.board.staysFlat = l.world.board.staysFlat := by
    rw [hours.same]
    rfl
  refine ⟨hcomes, ?_, fun c => ?_, ?_⟩
  · rw [htheirs.same, hours.same, hbare]
    rfl
  · rw [htheirs.heightAt, hours.heightAt, hbare]
  · rw [← hflat]
    exact hours.eq_iff htheirs hbare

/-- A follower that polls after each of two batches, the second of which makes the board larger. -/
theorem caught_up_eq_batch_by_batch :
    ∃ l r, Reached {} l r ∧ l.batches = [[.board 1 1], [.board 2 1]] ∧
      (r.follower.poll (l.journal.answer true) (l.journal.answer true)).follower.world =
        l.world := by
  have hstart : Reached {} (.start ⟨0⟩) (.start (.ofSettings {} 0)) := .start ⟨0⟩ 0
  have hfirst := (hstart.commit 0 ⟨1⟩ [.board 1 1]).poll true true .now
  have h := hfirst.commit 0 ⟨2⟩ [.board 2 1]
  have hequal := (caught_up_eq_iff h (by decide)).2.2.2
  refine ⟨_, _, h, rfl, hequal.mpr (.inr fun c _ => ?_)⟩
  exact iff_of_eq (congrArg (c ∈ ·) (by decide +kernel))

/-- A follower that polls only after both of them gets ground in a cell where the leader has none.
-/
theorem caught_up_ne_at_once :
    let l := ((Leader.start ⟨0⟩).commit {} 0 ⟨1⟩ [.board 1 1]).commit {} 0 ⟨2⟩ [.board 2 1]
    let r := Replica.start (.ofSettings {} 0)
    Reached {} l r ∧ (∀ i ∈ l.batches.flatten, i.isSeeded = true) ∧
      (r.follower.poll (l.journal.answer true) (l.journal.answer true)).follower.world ≠
        l.world := by
  intro l r
  refine ⟨((Reached.start ⟨0⟩ 0).commit 0 ⟨1⟩ [.board 1 1]).commit 0 ⟨2⟩ [.board 2 1], ?_, ?_⟩
  · decide
  · decide +kernel

end Tabletop
