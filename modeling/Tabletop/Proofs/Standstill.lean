import Tabletop.Proofs.Movement

/-!
# Movements that lead nowhere

The point on the straight line can be rounded to the cell where the movement begins. The movement
then ends there, although steps are left.

* `Grid.clampToward_eq_home_iff`: that is the only way for it to end there.
* `Grid.RoundedHome.budget_eq_one`, `Grid.nearDiagonal`: one step is left, and the goal is about as
  far across as it is down.
* `Grid.stuck_hex_iff`: on hexagons the goal is a cell up and to the left that is no neighbour.
  `Grid.stuck_square_iff`: on a diagonal of squares the goal is up and to the left.
* `Grid.leaves_unless_stuck`: all other movements lead somewhere.
-/

namespace Tabletop

namespace Grid

/-! ## The rounded point -/

/-- The way is longer than the budget, and its point is rounded to where it begins. -/
structure RoundedHome (g : Grid) (home goal : Cell) (budget : ℕ) : Prop where
  far : budget < g.distance home goal
  col : g.pointCol home goal budget = home.col.toNat
  row : g.pointRow home goal budget = home.row.toNat

/-- The cells across and the cells down differ by at most one in `2 ^ 18` of them all. -/
def NearDiagonal (home goal : Cell) : Prop :=
  across home goal * 2 ^ 18 ≤ down home goal * 2 ^ 18 + (across home goal + down home goal) ∧
    down home goal * 2 ^ 18 ≤ across home goal * 2 ^ 18 + (across home goal + down home goal)

section RoundedHome

variable {g : Grid} {home goal : Cell} {budget : ℕ}

theorem clampToward_eq_home_iff (hne : goal ≠ home) (hbudget : 1 ≤ budget) :
    g.clampToward home goal budget = home ↔ RoundedHome g home goal budget := by
  rw [clampToward_eq]
  by_cases h : budget < g.distance home goal
  · rw [clampFrom, if_neg (not_le.mpr h), pullBack_eq_home_iff g hbudget (onWay_point h)]
    exact ⟨fun ⟨hcol, hrow⟩ => ⟨h, hcol, hrow⟩, fun ⟨_, hcol, hrow⟩ => ⟨hcol, hrow⟩⟩
  · rw [clampFrom, if_pos (not_lt.mp h)]
    exact ⟨fun heq => absurd heq hne, fun hrounded => absurd hrounded.far h⟩

namespace RoundedHome

theorem across_le (h : RoundedHome g home goal budget) :
    across home goal * budget * 2 ^ 19 ≤ g.distance home goal * (2 ^ 18 + 1) :=
  natAbs_mul_le_of_between_eq h.far (distance_lt g home goal) h.col

theorem down_le (h : RoundedHome g home goal budget) :
    down home goal * budget * 2 ^ 19 ≤ g.distance home goal * (2 ^ 18 + 1) :=
  natAbs_mul_le_of_between_eq h.far (distance_lt g home goal) h.row

/-- With two steps the point is a whole cell away on one of the axes. -/
theorem budget_eq_one (h : RoundedHome g home goal budget) (hbudget : 1 ≤ budget) :
    budget = 1 := by
  by_contra hne
  have hacross := h.across_le
  have hdown := h.down_le
  have hfar := h.far
  have hle := distance_le_add g home goal
  have htwo : 2 ≤ budget := by omega
  have hacross' : across home goal * 2 ≤ across home goal * budget :=
    Nat.mul_le_mul_left _ htwo
  have hdown' : down home goal * 2 ≤ down home goal * budget := Nat.mul_le_mul_left _ htwo
  omega

end RoundedHome

theorem nearDiagonal (h : RoundedHome .square home goal 1) : NearDiagonal home goal := by
  have hacross := h.across_le
  have hdown := h.down_le
  have hle := distance_le_add .square home goal
  unfold NearDiagonal
  omega

end RoundedHome

/-! ## One step of two -/

section Half

variable {home goal : Cell}

theorem pointCol_eq (g : Grid) {k : ℕ} (h : g.distance home goal = 2 * k) :
    g.pointCol home goal 1 = between home.col goal.col (Float.ofNat 1 / Float.ofNat (2 * k)) := by
  rw [pointCol, h]

theorem pointRow_eq (g : Grid) {k : ℕ} (h : g.distance home goal = 2 * k) :
    g.pointRow home goal 1 = between home.row goal.row (Float.ofNat 1 / Float.ofNat (2 * k)) := by
  rw [pointRow, h]

/-- Half of the way from a count that is not zero is rounded to the beginning if and only if the way
leads down. -/
theorem between_half_eq_iff {a b : UInt32} {k : ℕ} (ha : 0 < a.toNat) (hk : 0 < k)
    (h : (b.toNat - a.toNat : ℤ).natAbs = k) :
    between a b (Float.ofNat 1 / Float.ofNat (2 * k)) = a.toNat ↔ b.toNat < a.toNat := by
  rcases Nat.lt_or_ge b.toNat a.toNat with hfall | hrise
  · have heq := between_half_falling (a := a) (b := b) hk (by omega)
    exact ⟨fun _ => hfall, fun _ => heq⟩
  · have heq := between_half_rising (a := a) (b := b) ha hk (by omega)
    rw [heq]
    constructor <;> intro h <;> omega

theorem between_zero_one : between 0 1 (Float.ofNat 1 / Float.ofNat (2 * 1)) = 1 := by
  decide +kernel

end Half

/-! ## Where steps are left over -/

/-- The goal is one row up and one column to the left, and the row is an odd one, so that the two
cells are no neighbours. -/
def Corner (home goal : Cell) : Prop :=
  home.row.toNat % 2 = 1 ∧ goal.col.toNat + 1 = home.col.toNat ∧ goal.row.toNat + 1 = home.row.toNat

/-- The goal is as far to the left as it is up. -/
def Diagonal (home goal : Cell) : Prop :=
  across home goal = down home goal ∧ goal.col.toNat < home.col.toNat ∧
    goal.row.toNat < home.row.toNat

section Stuck

variable {home goal : Cell}

theorem hex_distance_le (home goal : Cell) :
    distance .hex home goal ≤ down home goal ∨
      2 * distance .hex home goal ≤ 2 * across home goal + down home goal + 1 := by
  have hcap : distance .hex home goal ≤ hexSteps home goal := min_le_left _ _
  unfold hexSteps slant at hcap
  dsimp only at hcap
  unfold across down
  omega

theorem distance_corner (h : Corner home goal) : distance .hex home goal = 2 := by
  obtain ⟨hodd, hcol, hrow⟩ := h
  change min (hexSteps home goal) Decimal.word32 = 2
  unfold hexSteps slant Decimal.word32
  dsimp only
  omega

theorem stuck_hex_iff : RoundedHome .hex home goal 1 ↔ Corner home goal := by
  constructor
  · intro h
    have hacross := h.across_le
    have hdown := h.down_le
    have hfar := h.far
    -- The way is one cell across and one cell down, and it takes two steps.
    obtain ⟨hn, hm, hd⟩ : across home goal = 1 ∧ down home goal = 1 ∧
        distance .hex home goal = 2 * 1 := by
      have hadd := distance_le_add .hex home goal
      rcases hex_distance_le home goal with hle | hle <;> omega
    have hleft : goal.col.toNat < home.col.toNat := by
      have hpoint := h.col
      rw [pointCol_eq .hex hd] at hpoint
      rcases Nat.eq_zero_or_pos home.col.toNat with hzero | hpos
      · exfalso
        unfold across at hn
        have hhome : home.col = 0 := UInt32.toNat_inj.mp hzero
        have hgoal : goal.col = 1 := UInt32.toNat_inj.mp (by
          change goal.col.toNat = 1
          omega)
        rw [hhome, hgoal, between_zero_one] at hpoint
        exact absurd hpoint (by decide)
      · exact (between_half_eq_iff hpos Nat.one_pos hn).mp hpoint
    have hodd : home.row.toNat % 2 = 1 := by
      change min (hexSteps home goal) Decimal.word32 = 2 * 1 at hd
      unfold hexSteps slant Decimal.word32 at hd
      unfold across at hn
      unfold down at hm
      dsimp only at hd
      omega
    have hup : goal.row.toNat < home.row.toNat := by
      have hpoint := h.row
      rw [pointRow_eq .hex hd] at hpoint
      exact (between_half_eq_iff (by omega) Nat.one_pos hm).mp hpoint
    unfold across at hn
    unfold down at hm
    exact ⟨hodd, by omega, by omega⟩
  · intro h
    have hd : distance .hex home goal = 2 * 1 := distance_corner h
    obtain ⟨hodd, hcol, hrow⟩ := h
    refine ⟨by omega, ?_, ?_⟩
    · rw [pointCol_eq .hex hd, between_half_eq_iff (by omega) Nat.one_pos (by omega)]
      omega
    · rw [pointRow_eq .hex hd, between_half_eq_iff (by omega) Nat.one_pos (by omega)]
      omega

/-- On a board that is not too large, and away from its upper and left edge. -/
theorem stuck_square_iff (hsmall : across home goal + down home goal < 2 ^ 18)
    (hcol : 0 < home.col.toNat) (hrow : 0 < home.row.toNat) :
    RoundedHome .square home goal 1 ↔ Diagonal home goal := by
  have hsteps : apart .square home goal = across home goal + down home goal := by
    change squareSteps home goal = _
    unfold squareSteps across down
    omega
  have hd : distance .square home goal = across home goal + down home goal := by
    rw [distance_eq_apart, hsteps]
    rw [hsteps, Decimal.word32]
    omega
  have hpoints : ∀ k, 0 < k → across home goal = k → down home goal = k →
      ((pointCol .square home goal 1 = home.col.toNat ↔ goal.col.toNat < home.col.toNat) ∧
        (pointRow .square home goal 1 = home.row.toNat ↔ goal.row.toNat < home.row.toNat)) := by
    intro k hk hn hm
    have hdk : distance .square home goal = 2 * k := by omega
    rw [pointCol_eq .square hdk, pointRow_eq .square hdk]
    exact ⟨between_half_eq_iff hcol hk hn, between_half_eq_iff hrow hk hm⟩
  constructor
  · intro h
    have hfar := h.far
    have hnear := nearDiagonal h
    unfold NearDiagonal at hnear
    have heq : across home goal = down home goal := by omega
    obtain ⟨hleft, hup⟩ := hpoints (down home goal) (by omega) heq rfl
    exact ⟨heq, hleft.mp h.col, hup.mp h.row⟩
  · rintro ⟨heq, hleft, hup⟩
    have hpos : 0 < down home goal := by
      unfold down
      omega
    obtain ⟨hleft', hup'⟩ := hpoints (down home goal) hpos heq rfl
    exact ⟨by omega, hleft'.mpr hleft, hup'.mpr hup⟩

end Stuck

/-- One step is left, and it is lost. On hexagons that is so for one goal. -/
def Stuck (g : Grid) (home goal : Cell) (budget : ℕ) : Prop :=
  budget = 1 ∧
    match g with
    | .hex => Corner home goal
    | .square => RoundedHome .square home goal 1

theorem roundedHome_iff_stuck {g : Grid} {home goal : Cell} {budget : ℕ} (hbudget : 1 ≤ budget) :
    RoundedHome g home goal budget ↔ Stuck g home goal budget := by
  constructor
  · intro h
    obtain rfl := h.budget_eq_one hbudget
    cases g with
    | square => exact ⟨rfl, h⟩
    | hex => exact ⟨rfl, stuck_hex_iff.mp h⟩
  · rintro ⟨rfl, h⟩
    cases g with
    | square => exact h
    | hex => exact stuck_hex_iff.mpr h

end Grid

/-! ## Intents -/

theorem Roster.instructionsFor_moveToward {r : Roster} {token target : String} {f t : Fighter}
    (hf : r.fighter? token = some f) (ht : r.fighter? target = some t) :
    r.instructionsFor (.moveToward token target) =
      if r.grid.clampToward f.position t.position (r.moveBudget f) = f.position then []
      else [.move f.id.text
        (.to (r.grid.clampToward f.position t.position (r.moveBudget f)))] := by
  simp only [instructionsFor, moveToward, hf, ht]

namespace Grid

/-- A movement with steps left leads somewhere unless it is stuck. On squares that takes a goal about
as far across as it is down; on boards that are not too large, away from the upper and the left
edge, it is just what happens when one step is left and the goal is on a diagonal up and to the left.
An intent to move toward a target comes to a move, with the same exception. -/
theorem leaves_unless_stuck (g : Grid) {home goal : Cell} {budget : ℕ} (hne : goal ≠ home)
    (hbudget : 1 ≤ budget) :
    (g.clampToward home goal budget = home ↔ Stuck g home goal budget) ∧
    (g = .square → (Stuck g home goal budget → NearDiagonal home goal) ∧
      (across home goal + down home goal < 2 ^ 18 → 0 < home.col.toNat → 0 < home.row.toNat →
        (Stuck g home goal budget ↔ budget = 1 ∧ Diagonal home goal))) ∧
    ∀ (r : Roster) (token target : String) (f t : Fighter),
      r.fighter? token = some f → r.fighter? target = some t → r.grid = g →
      f.position = home → t.position = goal → r.moveBudget f = budget →
      (Stuck g home goal budget → r.instructionsFor (.moveToward token target) = []) ∧
      (¬ Stuck g home goal budget → r.instructionsFor (.moveToward token target) =
        [.move f.id.text (.to (g.clampToward home goal budget))]) := by
  have hiff : g.clampToward home goal budget = home ↔ Stuck g home goal budget :=
    (clampToward_eq_home_iff hne hbudget).trans (roundedHome_iff_stuck hbudget)
  refine ⟨hiff, ?_, ?_⟩
  · rintro rfl
    refine ⟨fun h => nearDiagonal h.2, fun hsmall hcol hrow => ?_⟩
    exact and_congr_right fun _ => stuck_square_iff hsmall hcol hrow
  · rintro r token target f t hf ht rfl rfl rfl rfl
    rw [Roster.instructionsFor_moveToward hf ht, ← hiff]
    exact ⟨fun h => if_pos h, fun h => if_neg h⟩

/-- A hero on `B2` with one cell of movement, and a goblin. -/
def onB2 (goblin : Cell) : Roster where
  settings := {}
  fighters := [⟨⟨"hero", 1⟩, "Hero", "pc", 10, 10, ⟨1, 1⟩, 5, [], []⟩,
    ⟨⟨"goblin", 1⟩, "Goblin", "npc", 7, 7, goblin, 30, [], []⟩]
  rounds := 1
  order := none
  values := []
  active := 0
  grid := .square
  sprites := []
  cols := 8
  rows := 8

/-- The goblin is down and to the right, and the hero moves toward it. -/
theorem leaves_unless_stuck_down :
    (⟨2, 2⟩ : Cell) ≠ ⟨1, 1⟩ ∧ clampToward .square ⟨1, 1⟩ ⟨2, 2⟩ 1 ≠ ⟨1, 1⟩ ∧
      (onB2 ⟨2, 2⟩).instructionsFor (.moveToward "hero-1" "goblin-1") ≠ [] := by
  have hne : (⟨2, 2⟩ : Cell) ≠ ⟨1, 1⟩ := by decide
  obtain ⟨hhome, hsquare, hintents⟩ :=
    leaves_unless_stuck .square hne (le_refl 1)
  have hstuck : ¬ Stuck .square ⟨1, 1⟩ ⟨2, 2⟩ 1 := by
    rw [(hsquare rfl).2 (by decide) (by decide) (by decide)]
    rintro ⟨-, -, hleft, -⟩
    exact absurd hleft (by decide)
  refine ⟨hne, fun heq => hstuck (hhome.mp heq), ?_⟩
  rw [(hintents (onB2 ⟨2, 2⟩) "hero-1" "goblin-1" _ _ rfl rfl rfl rfl rfl rfl).2 hstuck]
  exact List.cons_ne_nil _ _

/-- The goblin is up and to the left. The hero has a cell of movement and stays. -/
theorem stays_up_left :
    (⟨0, 0⟩ : Cell) ≠ ⟨1, 1⟩ ∧ clampToward .square ⟨1, 1⟩ ⟨0, 0⟩ 1 = ⟨1, 1⟩ ∧
      (onB2 ⟨0, 0⟩).instructionsFor (.moveToward "hero-1" "goblin-1") = [] := by
  decide +kernel

end Grid

end Tabletop
