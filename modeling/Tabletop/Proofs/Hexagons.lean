import Mathlib.Combinatorics.SimpleGraph.Metric
import Tabletop.Grid

/-!
# Paths on a board of hexagons

* `Grid.hexagons` is the graph of the cells and their neighbours.
* `Grid.steps_le_succ`: from neighbour to neighbour the steps to a goal differ by one at most.
  `Grid.exists_touches`: some neighbour is nearer by one step, and it is on the board.
* `Grid.hexDistance_eq_shortest`: the distance is the length of a shortest path.
-/

namespace Tabletop

/-- The column and the row of a cell, as counts without a bound. -/
def Cell.place (c : Cell) : ℕ × ℕ := (c.col.toNat, c.row.toNat)

namespace Grid

/-! ## Neighbours -/

/-- A cell has two neighbours in its own row and two in each of the rows next to it: one in its own
column, and one in the column before it for an even row and in the column after it for an odd one. -/
def Touches (p q : ℕ × ℕ) : Prop :=
  (q.2 = p.2 ∧ (q.1 + 1 = p.1 ∨ q.1 = p.1 + 1)) ∨
    ((q.2 + 1 = p.2 ∨ q.2 = p.2 + 1) ∧
      (q.1 = p.1 ∨ if p.2 % 2 = 0 then q.1 + 1 = p.1 else q.1 = p.1 + 1))

theorem Touches.symm {p q : ℕ × ℕ} (h : Touches p q) : Touches q p := by
  unfold Touches at h ⊢
  grind

theorem not_touches_self (p : ℕ × ℕ) : ¬Touches p p := by
  unfold Touches
  omega

/-- The board of hexagons without an edge on the right and below. -/
def hexagons : SimpleGraph (ℕ × ℕ) where
  Adj := Touches
  symm := ⟨fun _ _ => Touches.symm⟩
  loopless := ⟨not_touches_self⟩

/-! ## Steps -/

def slantAt (p : ℕ × ℕ) : ℤ := p.1 - (p.2 / 2 : ℕ)

/-- The steps from the middle to the place with these two coordinates. -/
def span (x z : ℤ) : ℕ := max (max x.natAbs (x + z).natAbs) z.natAbs

theorem span_le_iff {x z : ℤ} {n : ℕ} :
    span x z ≤ n ↔ (-n ≤ x ∧ x ≤ n) ∧ (-n ≤ x + z ∧ x + z ≤ n) ∧ (-n ≤ z ∧ z ≤ n) := by
  unfold span
  omega

theorem span_add_le (x z x' z' : ℤ) : span (x + x') (z + z') ≤ span x z + span x' z' := by
  have hfirst := span_le_iff.mp (le_refl (span x z))
  have hsecond := span_le_iff.mp (le_refl (span x' z'))
  rw [span_le_iff]
  push_cast
  omega

def steps (p q : ℕ × ℕ) : ℕ := span (slantAt p - slantAt q) ((p.2 : ℤ) - q.2)

theorem hexSteps_eq_steps (a b : Cell) : hexSteps a b = steps a.place b.place := rfl

theorem steps_comm (p q : ℕ × ℕ) : steps p q = steps q p := by
  unfold steps span
  omega

theorem steps_self (p : ℕ × ℕ) : steps p p = 0 := by
  simp [steps, span]

theorem eq_of_steps_eq_zero {p q : ℕ × ℕ} (h : steps p q = 0) : p = q := by
  unfold steps span slantAt at h
  refine Prod.ext ?_ ?_ <;> omega

/-- In slanted coordinates the neighbours are in the same six directions in all rows. -/
theorem touches_iff {p q : ℕ × ℕ} : Touches p q ↔
    (q.2 = p.2 ∧ (slantAt q = slantAt p - 1 ∨ slantAt q = slantAt p + 1)) ∨
      (q.2 + 1 = p.2 ∧ (slantAt q = slantAt p ∨ slantAt q = slantAt p + 1)) ∨
        (q.2 = p.2 + 1 ∧ (slantAt q = slantAt p ∨ slantAt q = slantAt p - 1)) := by
  unfold Touches slantAt
  split <;> omega

theorem steps_le_succ {p q : ℕ × ℕ} (h : Touches p q) (goal : ℕ × ℕ) :
    steps p goal ≤ steps q goal + 1 := by
  have hone : span (slantAt p - slantAt q) ((p.2 : ℤ) - q.2) ≤ 1 := by
    rw [touches_iff] at h
    rw [span_le_iff]
    omega
  have hadd := span_add_le (slantAt p - slantAt q) ((p.2 : ℤ) - q.2)
    (slantAt q - slantAt goal) ((q.2 : ℤ) - goal.2)
  rw [sub_add_sub_cancel, sub_add_sub_cancel] at hadd
  exact hadd.trans (by rw [Nat.add_comm]; exact Nat.add_le_add_left hone _)

/-! ## Shortest paths -/

theorem exists_slantAt {x : ℤ} {row : ℕ} (h : 0 ≤ x + (row / 2 : ℕ)) :
    ∃ q : ℕ × ℕ, slantAt q = x ∧ q.2 = row :=
  ⟨((x + (row / 2 : ℕ)).toNat, row), by unfold slantAt; omega, rfl⟩

/-- Some neighbour is nearer by one step. -/
theorem exists_touches {p goal : ℕ × ℕ} {n : ℕ} (h : steps p goal = n + 1) :
    ∃ q, Touches p q ∧ steps q goal = n := by
  -- The neighbour is named by its slant and its row. It is nearer than `p` by one step at most.
  suffices hnext : ∃ (x : ℤ) (row : ℕ), 0 ≤ x + (row / 2 : ℕ) ∧
      (∀ q, slantAt q = x → q.2 = row → Touches p q) ∧
        span (x - slantAt goal) ((row : ℤ) - goal.2) ≤ n by
    obtain ⟨x, row, hx, htouches, hspan⟩ := hnext
    obtain ⟨q, rfl, rfl⟩ := exists_slantAt hx
    have htouches := htouches q rfl rfl
    have hsucc := steps_le_succ htouches goal
    exact ⟨q, htouches, le_antisymm hspan (by omega)⟩
  have hp : slantAt p = p.1 - (p.2 / 2 : ℕ) := rfl
  have hgoal : slantAt goal = goal.1 - (goal.2 / 2 : ℕ) := rfl
  have hspan := span_le_iff.mp (le_of_eq h)
  simp only [touches_iff, span_le_iff]
  rcases lt_trichotomy p.2 goal.2 with hdown | hlevel | hup
  · by_cases hstraight : slantAt p - slantAt goal + ((p.2 : ℤ) - goal.2) < 0
    · exact ⟨slantAt p, p.2 + 1, by omega, by omega, by omega⟩
    · exact ⟨slantAt p - 1, p.2 + 1, by omega, by omega, by omega⟩
  · have hne : slantAt p ≠ slantAt goal := by
      intro heq
      rw [steps, heq, hlevel, sub_self, sub_self] at h
      cases h
    by_cases hright : slantAt p < slantAt goal
    · exact ⟨slantAt p + 1, p.2, by omega, by omega, by omega⟩
    · exact ⟨slantAt p - 1, p.2, by omega, by omega, by omega⟩
  · by_cases hstraight : slantAt p < slantAt goal
    · exact ⟨slantAt p + 1, p.2 - 1, by omega, by omega, by omega⟩
    · exact ⟨slantAt p, p.2 - 1, by omega, by omega, by omega⟩

theorem exists_walk (p goal : ℕ × ℕ) :
    ∃ walk : hexagons.Walk p goal, walk.length = steps p goal := by
  induction hn : steps p goal generalizing p with
  | zero =>
    obtain rfl := eq_of_steps_eq_zero hn
    exact ⟨.nil, rfl⟩
  | succ n ih =>
    obtain ⟨q, htouches, hsteps⟩ := exists_touches hn
    obtain ⟨walk, hlength⟩ := ih q hsteps
    have hadj : hexagons.Adj p q := htouches
    exact ⟨.cons hadj walk, by rw [SimpleGraph.Walk.length_cons, hlength]⟩

theorem steps_le_length {p goal : ℕ × ℕ} (walk : hexagons.Walk p goal) :
    steps p goal ≤ walk.length := by
  induction walk with
  | nil => exact (steps_self _).le
  | cons htouches walk ih =>
    exact (steps_le_succ htouches _).trans (Nat.succ_le_succ ih)

/-- The steps between two cells are those of a shortest path between them, capped at 32 bits. The
path may lead through all cells with counts that are not negative. -/
theorem hexDistance_eq_shortest (a b : Cell) :
    ∃ path : hexagons.Walk a.place b.place,
      (∀ other : hexagons.Walk a.place b.place, path.length ≤ other.length) ∧
        hexDistance a b = min path.length Decimal.word32 := by
  obtain ⟨path, hlength⟩ := exists_walk a.place b.place
  refine ⟨path, fun other => ?_, ?_⟩
  · rw [hlength]
    exact steps_le_length other
  · rw [hlength, hexDistance, hexSteps_eq_steps]

end Grid

end Tabletop
