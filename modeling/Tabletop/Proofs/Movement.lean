import Tabletop.Advice
import Tabletop.Proofs.Between
import Tabletop.Proofs.Grid
import Tabletop.Proofs.Hexagons

/-!
# Where a movement ends

A movement to a goal out of reach begins at a point on the straight line and walks back from there.

* `Grid.OnWay`: the counts lie between those of two cells. `Grid.onWay_stepBack`: a step back keeps
  them there.
* `Grid.ends_on_way`: the movement ends within the budget, on the way, and no further from the goal.
* `Grid.pullBack_eq_home_iff`: a walk that does not begin at home does not end there.
-/

namespace Tabletop.Grid

/-! ## Between two cells -/

theorem apart_comm (g : Grid) (a b : Cell) : g.apart a b = g.apart b a := by
  cases g with
  | square =>
    change squareSteps a b = squareSteps b a
    unfold squareSteps
    omega
  | hex =>
    change min (hexSteps a b) _ = min (hexSteps b a) _
    rw [hexSteps_eq_steps, hexSteps_eq_steps, steps_comm]

/-- The counts lie between those of the two cells. -/
structure OnWay (home goal : Cell) (col row : ℤ) : Prop where
  col : col ∈ Set.uIcc (home.col.toNat : ℤ) goal.col.toNat
  row : row ∈ Set.uIcc (home.row.toNat : ℤ) goal.row.toNat

section OnWay

variable {home goal : Cell} {col row : ℤ}

theorem toNat_ofNat_min {x : ℤ} {a b : UInt32} (h : x ∈ Set.uIcc (a.toNat : ℤ) b.toNat) :
    ((UInt32.ofNat (min x.toNat Decimal.word32)).toNat : ℤ) = x := by
  have ha := a.toNat_lt
  have hb := b.toNat_lt
  rw [Set.mem_uIcc] at h
  have hmin : min x.toNat Decimal.word32 = x.toNat := by
    simp only [Decimal.word32]
    omega
  rw [hmin, UInt32.toNat_ofNat', Nat.mod_eq_of_lt (by omega)]
  omega

namespace OnWay

theorem cellAt_col (h : OnWay home goal col row) : ((cellAt col row).col.toNat : ℤ) = col :=
  toNat_ofNat_min h.col

theorem cellAt_row (h : OnWay home goal col row) : ((cellAt col row).row.toNat : ℤ) = row :=
  toNat_ofNat_min h.row

theorem symm (h : OnWay home goal col row) : OnWay goal home col row where
  col := by
    rw [Set.uIcc_comm]
    exact h.col
  row := by
    rw [Set.uIcc_comm]
    exact h.row

theorem gap_eq_zero (h : OnWay home goal col row) (heq : cellAt col row = home) :
    gap home col row = 0 := by
  have hcol := h.cellAt_col
  have hrow := h.cellAt_row
  rw [heq] at hcol hrow
  unfold gap
  omega

end OnWay

theorem sub_sign_mem_uIcc {x a b : ℤ} (h : x ∈ Set.uIcc a b) :
    x - (x - a).sign ∈ Set.uIcc a b := by
  rw [Set.mem_uIcc] at h ⊢
  rcases lt_trichotomy (x - a) 0 with hneg | hzero | hpos
  · rw [Int.sign_eq_neg_one_of_neg hneg]
    omega
  · rw [hzero, Int.sign_zero]
    omega
  · rw [Int.sign_eq_one_of_pos hpos]
    omega

theorem onWay_stepBack (h : OnWay home goal col row) :
    OnWay home goal (stepBack home col row).1 (stepBack home col row).2 := by
  unfold stepBack
  dsimp only
  split
  · exact ⟨sub_sign_mem_uIcc h.col, h.row⟩
  · exact ⟨h.col, sub_sign_mem_uIcc h.row⟩

/-- A neighbour on either axis is one step away. -/
theorem distance_le_one (g : Grid) (h : OnWay home goal col row) (hgap : gap home col row = 1) :
    g.distance home (cellAt col row) ≤ 1 := by
  have hcol := h.cellAt_col
  have hrow := h.cellAt_row
  unfold gap at hgap
  cases g with
  | square =>
    change squareSteps _ _ % UInt32.size ≤ 1
    refine (Nat.mod_le _ _).trans ?_
    unfold squareSteps
    omega
  | hex =>
    refine (min_le_left _ _).trans ?_
    rw [hexSteps_eq_steps, steps, span_le_iff]
    unfold slantAt Cell.place
    dsimp only
    omega

/-- No cell on the way is further from the goal than the cell where the way begins. -/
theorem apart_le_of_onWay (g : Grid) {cell : Cell}
    (h : OnWay home goal cell.col.toNat cell.row.toNat) :
    g.apart cell goal ≤ g.apart home goal := by
  obtain ⟨hcol, hrow⟩ := h
  rw [Set.mem_uIcc] at hcol hrow
  cases g with
  | square =>
    change squareSteps _ _ ≤ squareSteps _ _
    unfold squareSteps
    omega
  | hex =>
    refine min_le_min_right _ ?_
    have hhome := span_le_iff.mp (le_refl (steps home.place goal.place))
    rw [hexSteps_eq_steps, hexSteps_eq_steps]
    generalize steps home.place goal.place = n at *
    rw [steps, span_le_iff]
    unfold slantAt Cell.place at *
    dsimp only at *
    omega

/-- The way back leads through the same cells, so none of them is further from its beginning than the
goal is. -/
theorem apart_home_le_of_onWay (g : Grid) {cell : Cell}
    (h : OnWay home goal cell.col.toNat cell.row.toNat) :
    g.apart home cell ≤ g.apart home goal := by
  have hback := apart_le_of_onWay g h.symm
  rwa [apart_comm, apart_comm g goal] at hback

end OnWay

/-! ## The walk back between the two -/

section Back

variable {home goal : Cell} {col row : ℤ}

theorem onWay_back (h : OnWay home goal col row) (k : ℕ) :
    OnWay home goal (back home col row k).1 (back home col row k).2 := by
  induction k with
  | zero => exact h
  | succ k ih =>
    rw [back_succ]
    exact onWay_stepBack ih

/-- A walk that does not begin at home stops on the cell before, which is one step away. -/
theorem pullBack_eq_home_iff (g : Grid) {budget : ℕ} (hbudget : 1 ≤ budget)
    (h : OnWay home goal col row) :
    g.pullBack home budget col row = home ↔ col = home.col.toNat ∧ row = home.row.toNat := by
  obtain ⟨k, ⟨-, hnear, hfirst⟩, heq⟩ := exists_pullBack g home budget col row
  rw [heq]
  constructor
  · intro hhome
    have hgap := (onWay_back h k).gap_eq_zero hhome
    cases k with
    | zero =>
      change gap home col row = 0 at hgap
      unfold gap at hgap
      omega
    | succ k =>
      exfalso
      have hfar := hfirst k (Nat.lt_succ_self k)
      have hstep := gap_back_succ (gap_ne_zero_of_far hfar)
      have hone := distance_le_one g (onWay_back h k) (by rw [← hstep, hgap])
      exact absurd (hone.trans hbudget) (not_le.mpr hfar)
  · rintro ⟨rfl, rfl⟩
    have hzero : gap home home.col.toNat home.row.toNat = 0 := by simp [gap]
    cases k with
    | zero => exact cellAt_of_gap_eq_zero hzero
    | succ k => exact absurd hzero (gap_ne_zero_of_far (hfirst 0 (Nat.succ_pos k)))

end Back

/-! ## The end of the walk -/

/-- The movement whose point on the straight line has these counts. -/
def clampFrom (g : Grid) (home goal : Cell) (budget : ℕ) (col row : ℤ) : Cell :=
  if g.distance home goal ≤ budget then goal else g.pullBack home budget col row

/-- A cell that a movement may end at. -/
structure Clamped (g : Grid) (home goal : Cell) (budget : ℕ) (cell : Cell) : Prop where
  within : g.distance home cell ≤ budget
  onWay : OnWay home goal cell.col.toNat cell.row.toNat
  nearer : g.apart cell goal ≤ g.apart home goal
  /-- No count wraps around unless that of the whole way does. -/
  counted : g.apart home goal ≤ Decimal.word32 →
    g.apart home cell ≤ budget ∧ g.distance cell goal ≤ g.distance home goal

section Clamped

variable {g : Grid} {home goal : Cell} {budget : ℕ} {col row : ℤ}

theorem clamped_of_onWay {cell : Cell} (hwithin : g.distance home cell ≤ budget)
    (h : OnWay home goal cell.col.toNat cell.row.toNat) : Clamped g home goal budget cell := by
  have hnearer := apart_le_of_onWay g h
  refine ⟨hwithin, h, hnearer, fun hwhole => ⟨?_, ?_⟩⟩
  · rwa [← distance_eq_apart ((apart_home_le_of_onWay g h).trans hwhole)]
  · rwa [distance_eq_apart (hnearer.trans hwhole), distance_eq_apart hwhole]

theorem clamped_goal (h : g.distance home goal ≤ budget) : Clamped g home goal budget goal :=
  clamped_of_onWay h ⟨Set.right_mem_uIcc, Set.right_mem_uIcc⟩

theorem clamped_pullBack (h : OnWay home goal col row) :
    Clamped g home goal budget (g.pullBack home budget col row) := by
  obtain ⟨k, ⟨-, hwithin, -⟩, heq⟩ := exists_pullBack g home budget col row
  have hback := onWay_back h k
  rw [heq]
  refine clamped_of_onWay hwithin ?_
  rw [backCell, hback.cellAt_col, hback.cellAt_row]
  exact hback

theorem clamped_clampFrom (h : OnWay home goal col row) :
    Clamped g home goal budget (g.clampFrom home goal budget col row) := by
  unfold clampFrom
  split
  · exact clamped_goal ‹_›
  · exact clamped_pullBack h

end Clamped

/-! ## The point on the straight line -/

/-- The counts that the two cells are apart. -/
def across (home goal : Cell) : ℕ := (goal.col.toNat - home.col.toNat : ℤ).natAbs

def down (home goal : Cell) : ℕ := (goal.row.toNat - home.row.toNat : ℤ).natAbs

/-- The point with which a movement out of reach begins. -/
def pointCol (g : Grid) (home goal : Cell) (budget : ℕ) : ℤ :=
  between home.col goal.col (Float.ofNat budget / Float.ofNat (g.distance home goal))

def pointRow (g : Grid) (home goal : Cell) (budget : ℕ) : ℤ :=
  between home.row goal.row (Float.ofNat budget / Float.ofNat (g.distance home goal))

section Point

variable {g : Grid} {home goal : Cell} {budget : ℕ}

theorem clampToward_eq (g : Grid) (home goal : Cell) (budget : ℕ) :
    g.clampToward home goal budget =
      g.clampFrom home goal budget (g.pointCol home goal budget) (g.pointRow home goal budget) :=
  rfl

theorem distance_le_add (g : Grid) (home goal : Cell) :
    g.distance home goal ≤ across home goal + down home goal := by
  unfold across down
  cases g with
  | square =>
    refine (distance_le_apart .square home goal).trans ?_
    change squareSteps _ _ ≤ _
    unfold squareSteps
    omega
  | hex =>
    refine (min_le_left _ _).trans ?_
    rw [hexSteps_eq_steps, steps, span_le_iff]
    unfold slantAt Cell.place
    dsimp only
    omega

theorem distance_lt (g : Grid) (home goal : Cell) : g.distance home goal < 2 ^ 53 := by
  have hle := distance_le_add g home goal
  have hcol := home.col.toNat_lt
  have hrow := home.row.toNat_lt
  have hcol' := goal.col.toNat_lt
  have hrow' := goal.row.toNat_lt
  unfold across down at hle
  omega

theorem onWay_point (h : budget < g.distance home goal) :
    OnWay home goal (g.pointCol home goal budget) (g.pointRow home goal budget) :=
  ⟨between_mem_uIcc _ _ h (distance_lt g home goal), between_mem_uIcc _ _ h (distance_lt g home goal)⟩

theorem clamped_clampToward (g : Grid) (home goal : Cell) (budget : ℕ) :
    Clamped g home goal budget (g.clampToward home goal budget) := by
  by_cases h : budget < g.distance home goal
  · exact clampToward_eq g home goal budget ▸ clamped_clampFrom (onWay_point h)
  · rw [clampToward, if_pos (not_lt.mp h)]
    exact clamped_goal (not_lt.mp h)

-- The goal is 4294967299 steps away, and the count has wrapped around to 3.
example : clampToward .square ⟨0, 0⟩ ⟨2147483648, 2147483651⟩ 6 = ⟨2147483648, 2147483651⟩ := by
  decide

end Point

/-- The walk back from any point between the beginning and the goal ends, after at most as many
steps as lead back to the beginning. The movement ends within its budget, between the beginning and
the goal on both axes, and no further from the goal than it began. The distances say the same of
cells that are no further apart than 32 bits count, and then the budget is kept to the cell. The point
on the straight line that is calculated with floating point numbers is between the two, so that all
this holds of it too. -/
theorem ends_on_way (g : Grid) (home goal : Cell) (budget : ℕ) {col row : ℤ}
    (h : OnWay home goal col row) :
    (∃ k, EndsAfter g home budget col row k ∧
      g.pullBack home budget col row = backCell home col row k) ∧
    Clamped g home goal budget (g.clampFrom home goal budget col row) ∧
    Clamped g home goal budget (g.clampToward home goal budget) :=
  ⟨exists_pullBack g home budget col row, clamped_clampFrom h, clamped_clampToward g home goal budget⟩

/-- From a cell of a board of hexagons to one that is two steps away. The walk begins there. -/
theorem ends_on_way_hex :
    let home : Cell := ⟨1, 1⟩
    let goal : Cell := ⟨2, 3⟩
    OnWay home goal 2 3 ∧ Clamped .hex home goal 1 (clampFrom .hex home goal 1 2 3) ∧
      clampFrom .hex home goal 1 2 3 = ⟨2, 2⟩ := by
  intro home goal
  have h : OnWay home goal 2 3 :=
    ⟨Set.mem_uIcc.mpr (Or.inl (by decide)), Set.mem_uIcc.mpr (Or.inl (by decide))⟩
  exact ⟨h, (ends_on_way .hex home goal 1 h).2.1, by decide⟩

end Tabletop.Grid
