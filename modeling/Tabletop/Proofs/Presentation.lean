import Tabletop.Proofs.CaughtUp
import Tabletop.Proofs.Reachable
import Tabletop.Roster

/-!
# Instructions that only concern the presentation

Cameras, selections, views and tooltips travel with a batch and are passed over, and so is whatever
is not known. But a batch that holds nothing else is still a batch, and its end fills a board that has
no heights; an empty batch has no such end.

* `Board.Filled`: the boards that the end of a batch leaves as they are (`Board.fillFlat_eq_self_iff`).
  All boards that batches and ticks lead to are such (`World.Attained.filled`).
* `side_channel_invisible`: there it makes no difference to leave those instructions out.
-/

namespace Tabletop

/-- A batch without the instructions that only concern the presentation. -/
def Instruction.forBattle (batch : List Instruction) : List Instruction :=
  batch.filter fun i => !i.isSideChannel

theorem Instruction.forBattle_cons (i : Instruction) (batch : List Instruction) :
    forBattle (i :: batch) = if i.isSideChannel then forBattle batch else i :: forBattle batch := by
  rw [forBattle, List.filter_cons]
  cases i.isSideChannel with
  | true => rfl
  | false => rfl

open Instruction

/-! ## Boards -/

namespace Board

/-- The board has heights, or stays without them, or has no cell that could have one. -/
def Filled (b : Board) : Prop := b.heights.isEmpty = false ∨ b.staysFlat = true ∨ b.cells = []

theorem filled_initial : Filled .initial := .inr (.inr rfl)

theorem filled_fillFlat (b : Board) : b.fillFlat.Filled := by
  rw [fillFlat]
  by_cases hlacks : (b.heights.isEmpty && !b.staysFlat) = true
  · rw [if_pos hlacks]
    cases hcells : b.cells with
    | nil => exact .inr (.inr hcells)
    | cons c rest =>
      refine .inl (Bool.eq_false_iff.mpr fun hempty => ?_)
      have hnone := Dict.isEmpty_iff.mp hempty c
      rw [Dict.get?_insertAll_const, if_pos List.mem_cons_self] at hnone
      cases hnone
  · rw [if_neg hlacks]
    cases hheights : b.heights.isEmpty with
    | false => exact .inl hheights
    | true =>
      rw [hheights, Bool.true_and, Bool.not_eq_true', Bool.not_eq_false] at hlacks
      exact .inr (.inl hlacks)

theorem fillFlat_eq_self_iff {b : Board} : b.fillFlat = b ↔ b.Filled := by
  constructor
  · intro hsame
    rw [← hsame]
    exact b.filled_fillFlat
  · intro hfilled
    rw [fillFlat]
    rcases hfilled with hheights | hflat | hcells
    · rw [hheights]
      rfl
    · rw [hflat, Bool.not_true, Bool.and_false]
      rfl
    · rw [hcells, List.map_nil, Dict.insertAll_nil]
      exact ite_self b

end Board

/-! ## Worlds -/

namespace World

theorem Attained.filled {w : World} (h : Attained w) : w.board.Filled := by
  induction h with
  | empty => exact Board.filled_initial
  | apply rules batch _ ih =>
    by_cases hne : batch = []
    · rw [hne]
      exact ih
    · rw [apply_of_ne_nil hne]
      exact Board.filled_fillFlat _
  | tick c seconds _ ih => exact ih

theorem run_forBattle (rules : Rules) (w : World) (batch : List Instruction) :
    (run rules w (forBattle batch)).1 = (run rules w batch).1 := by
  induction batch generalizing w with
  | nil => rfl
  | cons i batch ih =>
    rw [forBattle_cons]
    split
    · rename_i hside
      have hpassed : w.after rules i = w := by
        rw [after, stepInBatch, if_pos hside]
      rw [run_cons, hpassed, ih]
    · rw [run_cons, run_cons, ih]

theorem apply_forBattle (rules : Rules) {w : World} (h : w.board.Filled)
    (batch : List Instruction) :
    (w.apply rules (forBattle batch)).1 = (w.apply rules batch).1 := by
  by_cases hbatch : batch = []
  · rw [hbatch]
    rfl
  · have hrun := run_forBattle rules w batch
    rw [apply_of_ne_nil hbatch, ← hrun]
    by_cases hleft : forBattle batch = []
    · -- the end of the batch is all that is left of it
      have hfill := Board.fillFlat_eq_self_iff.mpr h
      rw [hleft]
      exact congrArg (fun board => { w with board }) hfill.symm
    · rw [apply_of_ne_nil hleft]

end World

/-! ## Rosters -/

namespace Roster

theorem step_of_sideChannel (r : Roster) {i : Instruction} (h : i.isSideChannel = true) :
    r.step i = .ok r := by
  unfold isSideChannel at h
  split at h
  · rfl
  · rfl
  · rfl
  · rfl
  · rfl
  · cases h

/-- A roster does not even report them. -/
theorem apply_forBattle (r : Roster) (batch : List Instruction) :
    r.apply (forBattle batch) = r.apply batch := by
  induction batch generalizing r with
  | nil => rfl
  | cons i batch ih =>
    rw [forBattle_cons]
    split
    · rename_i hside
      rw [ih, apply, step_of_sideChannel r hside]
    · rw [apply, apply]
      cases r.step i with
      | ok r' => exact ih r'
      | error cause =>
        dsimp only
        rw [ih]

end Roster

/-- A batch without the instructions that only concern the presentation, even if it is empty then,
leads to the same world, from every world that batches and ticks lead to and as long as no terrain is
drawn by the clock, and to the same roster with the same reports. -/
theorem side_channel_invisible {w : World} (h : World.Attained w) (r : Roster)
    {batch : List Instruction} (hseeded : ∀ i ∈ batch, i.isSeeded = true) (settings : Settings)
    (a b : UInt64) :
    (w.apply (.ofSettings settings a) (forBattle batch)).1 =
        (w.apply (.ofSettings settings b) batch).1 ∧
      r.apply (forBattle batch) = r.apply batch := by
  refine ⟨?_, r.apply_forBattle batch⟩
  have hworld := World.apply_forBattle (.ofSettings settings a) h.filled batch
  rw [hworld]
  exact World.apply_of_seeded a b w hseeded

/-- A board of two cells has had its heights taken away. A tooltip and a camera bring none back, nor
does the empty batch that is left without them. -/
theorem side_channel_invisible_razed :
    let w := (World.empty.apply (.ofSettings {} 1) [.board 2 1, .removeHeightmap]).1
    let batch : List Instruction := [.tooltip, .cameraState]
    World.Attained w ∧ w.board.cells.length = 2 ∧ w.board.heights.isEmpty = true ∧
      forBattle batch = [] ∧ (w.apply (.ofSettings {} 2) batch).1 = w := by
  intro w batch
  have hattained : World.Attained w := World.Attained.empty.apply _ _
  have hseeded : ∀ i ∈ batch, i.isSeeded = true := by decide
  have hsame := side_channel_invisible hattained (.empty {}) hseeded {} 2 2
  exact ⟨hattained, by decide +kernel, by decide +kernel, rfl, hsame.1.symm⟩

end Tabletop
