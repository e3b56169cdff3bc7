import Tabletop.Proofs.CaughtUp

/-!
# Where one batch ends and the next begins

The end of a batch may fill a board with height zero, so two batches can leave entries for heights
that one batch with the instructions of both does not leave. Nobody can tell by anything else.

* `World.SameLand`: two worlds that differ in nothing but entries for heights, and in which every
  cell has the same height all the same. It is an equivalence, every instruction keeps it, and so
  does the end of a batch.
* `World.apply_append`: a batch in two parts and the whole batch lead to such worlds, from whatever
  world they start.
-/

namespace Tabletop

namespace World

structure SameLand (w w' : World) : Prop where
  rest : w'.setHeights ∅ = w.setHeights ∅
  heightAt : ∀ c, w'.board.heightAt c = w.board.heightAt c

namespace SameLand

variable {w w' w'' : World} {rules : Rules}

theorem refl (w : World) : SameLand w w := ⟨rfl, fun _ => rfl⟩

theorem symm (h : SameLand w w') : SameLand w' w := ⟨h.rest.symm, fun c => (h.heightAt c).symm⟩

theorem trans (h : SameLand w w') (h' : SameLand w' w'') : SameLand w w'' :=
  ⟨h'.rest.trans h.rest, fun c => (h'.heightAt c).trans (h.heightAt c)⟩

/-- The other world is the one with other heights. -/
theorem eq_setHeights (h : SameLand w w') : w' = w.setHeights w'.board.heights :=
  congrArg (·.setHeights w'.board.heights) h.rest

/-- The same entries on top of heights that look the same. -/
theorem heights_insertAll (h : SameLand w w') (entries : List (Cell × Float)) (c : Cell) :
    ((w'.board.heights.insertAll entries).get? c).getD 0.0 =
      ((w.board.heights.insertAll entries).get? c).getD 0.0 := by
  rw [Dict.get?_insertAll, Dict.get?_insertAll]
  cases (Dict.ofList entries).get? c with
  | some x => rfl
  | none => exact h.heightAt c

theorem step (h : SameLand w w') {i : Instruction} (hwipe : i.wipesWorld = false)
    (hraze : i ≠ .removeHeightmap) : SameLand (w.step rules i).world (w'.step rules i).world := by
  have hleft := step_setHeights rules w w.board.heights hwipe hraze
  have hright := step_setHeights rules w w'.board.heights hwipe hraze
  rw [setHeights_self] at hleft
  rw [← h.eq_setHeights] at hright
  refine ⟨?_, fun c => ?_⟩
  · rw [hright, hleft]
    rfl
  · rw [hright, hleft]
    exact h.heights_insertAll (laid rules w i) c

theorem after (h : SameLand w w') (i : Instruction) :
    SameLand (w.after rules i) (w'.after rules i) := by
  cases hwipe : i.wipesWorld with
  | true =>
    rw [after_of_wipe rules w hwipe, after_of_wipe rules w' hwipe]
    exact refl _
  | false =>
    rw [after_eq_step, after_eq_step]
    by_cases hraze : i = .removeHeightmap
    · rw [hraze, h.eq_setHeights]
      exact refl _
    · exact h.step hwipe hraze

theorem run (h : SameLand w w') (rules : Rules) (batch : List Instruction) :
    SameLand (World.run rules w batch).1 (World.run rules w' batch).1 := by
  induction batch generalizing w w' with
  | nil => exact h
  | cons i batch ih =>
    rw [run_cons, run_cons]
    exact ih (h.after i)

/-- A board that is filled with height zero has had height zero before. -/
theorem fillFlat (w : World) : SameLand w { w with board := w.board.fillFlat } := by
  rw [Board.fillFlat]
  split
  · rename_i hflat
    have hnone := Dict.isEmpty_iff.mp (Bool.and_eq_true_iff.mp hflat).1
    refine ⟨rfl, fun c => ?_⟩
    rw [Board.heightAt, Board.heightAt, Dict.get?_insertAll_const, hnone c]
    split
    · rfl
    · rfl
  · exact refl w

theorem ofApply (rules : Rules) (w : World) (batch : List Instruction) :
    SameLand (World.run rules w batch).1 (w.apply rules batch).1 := by
  cases batch with
  | nil => exact refl w
  | cons i batch =>
    rw [apply_of_ne_nil (List.cons_ne_nil i batch)]
    exact fillFlat _

end SameLand

/-- A batch in two parts and the whole batch, where no terrain is drawn by the clock: the worlds are
equal in everything but the entries for heights, and every cell has the same height in both. -/
theorem apply_append (settings : Settings) (first second whole : UInt64) (w : World)
    (a b : List Instruction) (hseeded : ∀ i ∈ a ++ b, i.isSeeded = true) :
    let parts := ((w.apply (.ofSettings settings first) a).1.apply (.ofSettings settings second) b).1
    let one := (w.apply (.ofSettings settings whole) (a ++ b)).1
    parts.setHeights ∅ = one.setHeights ∅ ∧ ∀ c, parts.board.heightAt c = one.board.heightAt c := by
  intro parts one
  have hparts : parts =
      ((w.apply (.ofSettings settings whole) a).1.apply (.ofSettings settings whole) b).1 := by
    rw [apply_of_seeded whole first w fun i hi => hseeded i (List.mem_append_left b hi),
      apply_of_seeded whole second _ fun i hi => hseeded i (List.mem_append_right a hi)]
  have hone := SameLand.ofApply (.ofSettings settings whole) w (a ++ b)
  rw [run_append] at hone
  have hrun := (SameLand.ofApply (.ofSettings settings whole) w a).run
    (.ofSettings settings whole) b
  have hsame := (hone.symm.trans hrun).trans (.ofApply _ _ b)
  rw [hparts]
  exact ⟨hsame.rest, hsame.heightAt⟩

/-- A board that grows with the second part: the first part has filled it with height zero by then,
and only one of two cells has an entry. -/
theorem apply_append_growing :
    let parts := ((World.empty.apply (.ofSettings {} 1) [.board 1 1]).1.apply (.ofSettings {} 2)
      [.board 2 1, .place "goblin" [⟨1, 0⟩]]).1
    let one := (World.empty.apply (.ofSettings {} 3)
      [.board 1 1, .board 2 1, .place "goblin" [⟨1, 0⟩]]).1
    (parts.board.heights.size = 1 ∧ one.board.heights.size = 2) ∧
      parts.setHeights ∅ = one.setHeights ∅ ∧
      ∀ c, parts.board.heightAt c = one.board.heightAt c := by
  refine ⟨by decide +kernel, ?_⟩
  exact apply_append {} 1 2 3 .empty [.board 1 1] [.board 2 1, .place "goblin" [⟨1, 0⟩]] (by decide)

end World

end Tabletop
