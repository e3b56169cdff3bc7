import Mathlib.Logic.Function.Iterate
import Tabletop.Grid

/-!
# Clamped movement stays within its budget

* `Grid.apart` is how far two cells are apart. `Grid.distance` is that number as long as it has 32
  bits: `Grid.distance_eq_apart`, `Grid.distance_add_size`.
* `Grid.distance_self`: no step leads from a cell to itself.
* `Grid.gap_stepBack`: a step back leaves one step less to the cell where the movement began.
* `Grid.exists_pullBack`: so the walk back ends, at the first cell within the budget.
* `Grid.distance_clampToward_le`: so the movement ends within its budget, on either grid.
-/

namespace Tabletop.Grid

/-! ## Cells that are far apart -/

/-- How far two cells are apart. On squares that number may have more than 32 bits; on hexagons it is
the capped one. -/
def apart : Grid → Cell → Cell → Nat
  | square => squareSteps
  | hex => hexDistance

section Apart

variable {g : Grid} {a b : Cell}

theorem hexDistance_lt (a b : Cell) : hexDistance a b < UInt32.size :=
  Nat.lt_of_le_of_lt (Nat.min_le_right _ _) (by decide)

theorem distance_eq_mod (g : Grid) (a b : Cell) : g.distance a b = g.apart a b % UInt32.size := by
  cases g with
  | square => rfl
  | hex => exact (Nat.mod_eq_of_lt (hexDistance_lt a b)).symm

theorem apart_lt (g : Grid) (a b : Cell) : g.apart a b < 2 * UInt32.size := by
  cases g with
  | square =>
    have hcol := a.col.toNat_lt
    have hrow := a.row.toNat_lt
    have hcol' := b.col.toNat_lt
    have hrow' := b.row.toNat_lt
    simp only [apart, squareSteps, UInt32.size]
    omega
  | hex => exact Nat.lt_of_lt_of_le (hexDistance_lt a b) (by decide)

theorem distance_le_apart (g : Grid) (a b : Cell) : g.distance a b ≤ g.apart a b :=
  distance_eq_mod g a b ▸ Nat.mod_le _ _

theorem distance_eq_apart (h : g.apart a b ≤ Decimal.word32) : g.distance a b = g.apart a b := by
  rw [distance_eq_mod, Nat.mod_eq_of_lt (Nat.lt_of_le_of_lt h (by decide))]

/-- What does not have 32 bits has one more. -/
theorem distance_add_size (h : Decimal.word32 < g.apart a b) :
    g.distance a b + UInt32.size = g.apart a b := by
  have hlt := apart_lt g a b
  rw [distance_eq_mod]
  simp only [Decimal.word32, UInt32.size] at h hlt ⊢
  omega

/-- A distance within a budget of 32 bits may be that of two cells further apart. -/
theorem apart_le_iff {budget : Nat} (hbudget : budget ≤ Decimal.word32)
    (h : g.distance a b ≤ budget) : g.apart a b ≤ budget ↔ g.apart a b ≤ Decimal.word32 :=
  ⟨fun hnear => Nat.le_trans hnear hbudget, fun hnear => distance_eq_apart hnear ▸ h⟩

end Apart

/-! ## Steps back -/

theorem distance_self (g : Grid) (c : Cell) : g.distance c c = 0 := by
  cases g with
  | square => simp [distance, squareDistance, squareSteps]
  | hex => simp [distance, hexDistance, hexSteps]

theorem cellAt_toNat (c : Cell) : cellAt c.col.toNat c.row.toNat = c := by
  have hcol := c.col.toNat_lt
  have hrow := c.row.toNat_lt
  have hmin : ∀ n : Nat, n < 2 ^ 32 → min n Decimal.word32 = n := by
    intro n hn
    simp only [Decimal.word32]
    omega
  simp [cellAt, hmin _ hcol, hmin _ hrow]

/-- The steps back that lead to the cell where the movement began. -/
def gap (home : Cell) (col row : Int) : Nat :=
  (col - home.col.toNat).natAbs + (row - home.row.toNat).natAbs

theorem cellAt_of_gap_eq_zero {home : Cell} {col row : Int} (h : gap home col row = 0) :
    cellAt col row = home := by
  obtain ⟨hcol, hrow⟩ := Nat.add_eq_zero_iff.mp h
  have hcol : col = home.col.toNat := by omega
  have hrow : row = home.row.toNat := by omega
  rw [hcol, hrow, cellAt_toNat]

theorem gap_ne_zero_of_far {g : Grid} {home : Cell} {budget : Nat} {col row : Int}
    (h : budget < g.distance home (cellAt col row)) : gap home col row ≠ 0 := by
  intro hzero
  rw [cellAt_of_gap_eq_zero hzero, distance_self] at h
  exact Nat.not_lt_zero budget h

theorem natAbs_sub_sign {d : Int} (h : d ≠ 0) : (d - d.sign).natAbs + 1 = d.natAbs := by
  rcases Int.lt_or_gt_of_ne h with hneg | hpos
  · rw [Int.sign_eq_neg_one_of_neg hneg]
    omega
  · rw [Int.sign_eq_one_of_pos hpos]
    omega

theorem gap_stepBack {home : Cell} {col row : Int} (h : gap home col row ≠ 0) :
    gap home (stepBack home col row).1 (stepBack home col row).2 + 1 = gap home col row := by
  unfold gap at h ⊢
  unfold stepBack
  dsimp only
  split
  · have hstep := natAbs_sub_sign (d := col - home.col.toNat) (by omega)
    have hcol : col - (col - home.col.toNat).sign - home.col.toNat =
        col - home.col.toNat - (col - home.col.toNat).sign := by omega
    rw [hcol]
    omega
  · have hstep := natAbs_sub_sign (d := row - home.row.toNat) (by omega)
    have hrow : row - (row - home.row.toNat).sign - home.row.toNat =
        row - home.row.toNat - (row - home.row.toNat).sign := by omega
    rw [hrow]
    omega

/-! ## The walk back -/

/-- The counts after a number of steps back. -/
def back (home : Cell) (col row : Int) (k : Nat) : Int × Int :=
  (fun p : Int × Int => stepBack home p.1 p.2)^[k] (col, row)

def backCell (home : Cell) (col row : Int) (k : Nat) : Cell :=
  cellAt (back home col row k).1 (back home col row k).2

theorem back_succ (home : Cell) (col row : Int) (k : Nat) :
    back home col row (k + 1) = stepBack home (back home col row k).1 (back home col row k).2 :=
  Function.iterate_succ_apply' _ _ _

theorem gap_back_succ {home : Cell} {col row : Int} {k : Nat}
    (h : gap home (back home col row k).1 (back home col row k).2 ≠ 0) :
    gap home (back home col row (k + 1)).1 (back home col row (k + 1)).2 + 1 =
      gap home (back home col row k).1 (back home col row k).2 := by
  rw [back_succ]
  exact gap_stepBack h

/-- After `k` steps back the walk is within the budget for the first time. -/
structure EndsAfter (g : Grid) (home : Cell) (budget : Nat) (col row : Int) (k : Nat) : Prop where
  few : k ≤ gap home col row
  within : g.distance home (backCell home col row k) ≤ budget
  first : ∀ j < k, budget < g.distance home (backCell home col row j)

/-- The induction is on the steps that are left. They are enough to get back. -/
theorem exists_pullBackFrom (g : Grid) (home : Cell) (budget : Nat) {steps : Nat} {col row : Int}
    (h : gap home col row ≤ steps) :
    ∃ k, EndsAfter g home budget col row k ∧
      pullBackFrom g home budget steps col row = backCell home col row k := by
  induction steps generalizing col row with
  | zero =>
    refine ⟨0, ⟨Nat.zero_le _, ?_, fun j hj => absurd hj (Nat.not_lt_zero j)⟩, rfl⟩
    have hhome : backCell home col row 0 = home := cellAt_of_gap_eq_zero (Nat.le_zero.mp h)
    rw [hhome, distance_self]
    exact Nat.zero_le budget
  | succ steps ih =>
    rw [pullBackFrom]
    dsimp only
    split
    · rename_i hnear
      exact ⟨0, ⟨Nat.zero_le _, hnear, fun j hj => absurd hj (Nat.not_lt_zero j)⟩, rfl⟩
    · rename_i hfar
      have hfar := Nat.not_le.mp hfar
      have hstep := gap_stepBack (gap_ne_zero_of_far hfar)
      have hleft : gap home (stepBack home col row).1 (stepBack home col row).2 ≤ steps := by omega
      obtain ⟨k, ⟨hk, hnear, hfirst⟩, heq⟩ := ih hleft
      refine ⟨k + 1, ⟨by omega, hnear, fun j hj => ?_⟩, heq⟩
      cases j with
      | zero => exact hfar
      | succ j => exact hfirst j (Nat.lt_of_succ_lt_succ hj)

theorem exists_pullBack (g : Grid) (home : Cell) (budget : Nat) (col row : Int) :
    ∃ k, EndsAfter g home budget col row k ∧
      g.pullBack home budget col row = backCell home col row k :=
  exists_pullBackFrom g home budget (Nat.le_refl (gap home col row))

theorem distance_clampToward_le (g : Grid) (home goal : Cell) (budget : Nat) :
    g.distance home (g.clampToward home goal budget) ≤ budget := by
  unfold clampToward
  dsimp only
  split
  · assumption
  · obtain ⟨k, hends, heq⟩ := exists_pullBack g home budget _ _
    rw [heq]
    exact hends.within

end Tabletop.Grid
