import Mathlib.Algebra.BigOperators.Group.List.Basic
import Mathlib.Data.List.Nodup
import Tabletop.World

/-!
# The cells of a board

* `Board.getElem?_cells`: row after row, and in each row column after column.
* `Board.mem_cells`, `Board.nodup_cells`, `Board.length_cells`: every cell is there, and only once.
-/

namespace Tabletop

theorem toNat_ofNat_of_lt_toNat {n : Nat} {a : UInt32} (h : n < a.toNat) :
    (UInt32.ofNat n).toNat = n :=
  UInt32.toNat_ofNat_of_lt' (Nat.lt_trans h a.toNat_lt)

theorem ofNat_lt_of_lt_toNat {n : Nat} {a : UInt32} (h : n < a.toNat) : UInt32.ofNat n < a := by
  rw [UInt32.lt_iff_toNat_lt, toNat_ofNat_of_lt_toNat h]
  exact h

/-- Numbers below one of 32 bits are told apart. -/
theorem nodup_map_ofNat_range (a : UInt32) : ((List.range a.toNat).map UInt32.ofNat).Nodup := by
  refine List.Nodup.map_on (fun m hm n hn h => ?_) List.nodup_range
  have hnat := congrArg UInt32.toNat h
  rwa [toNat_ofNat_of_lt_toNat (List.mem_range.mp hm),
    toNat_ofNat_of_lt_toNat (List.mem_range.mp hn)] at hnat

namespace Board

/-- One row of a board. -/
def rowOf (cols : UInt32) (row : Nat) : List Cell :=
  (List.range cols.toNat).map fun col => ⟨UInt32.ofNat col, UInt32.ofNat row⟩

theorem length_rowOf (cols : UInt32) (row : Nat) : (rowOf cols row).length = cols.toNat := by
  rw [rowOf, List.length_map, List.length_range]

theorem cellsOf_eq (cols rows : UInt32) :
    cellsOf cols rows = (List.range rows.toNat).flatMap (rowOf cols) := rfl

theorem length_cellsOf (cols rows : UInt32) :
    (cellsOf cols rows).length = cols.toNat * rows.toNat := by
  simp [cellsOf, List.length_flatMap, Nat.mul_comm]

theorem mem_cellsOf {cols rows : UInt32} {c : Cell} :
    c ∈ cellsOf cols rows ↔ c.col < cols ∧ c.row < rows := by
  simp only [cellsOf, List.mem_flatMap, List.mem_map, List.mem_range]
  constructor
  · rintro ⟨row, hrow, col, hcol, rfl⟩
    exact ⟨ofNat_lt_of_lt_toNat hcol, ofNat_lt_of_lt_toNat hrow⟩
  · rintro ⟨hcol, hrow⟩
    refine ⟨c.row.toNat, UInt32.lt_iff_toNat_lt.mp hrow, c.col.toNat,
      UInt32.lt_iff_toNat_lt.mp hcol, ?_⟩
    rw [UInt32.ofNat_toNat, UInt32.ofNat_toNat]

theorem nodup_cellsOf (cols rows : UInt32) : (cellsOf cols rows).Nodup := by
  rw [cellsOf, List.nodup_flatMap]
  constructor
  · intro row _
    refine List.Nodup.of_map Cell.col ?_
    rw [List.map_map]
    exact nodup_map_ofNat_range cols
  · have hrows := nodup_map_ofNat_range rows
    rw [List.Nodup, List.pairwise_map] at hrows
    refine hrows.imp fun {m n} hne => List.disjoint_left.mpr ?_
    intro c hm hn
    obtain ⟨_, -, rfl⟩ := List.mem_map.mp hm
    obtain ⟨_, -, hcell⟩ := List.mem_map.mp hn
    exact hne (congrArg Cell.row hcell).symm

theorem flatMap_getElem? {f : Nat → List Cell} {width : Nat} (hwidth : ∀ n, (f n).length = width)
    {col : Nat} (hcol : col < width) {rows row : Nat} (hrow : row < rows) :
    ((List.range rows).flatMap f)[row * width + col]? = (f row)[col]? := by
  induction rows generalizing row f with
  | zero => omega
  | succ rows ih =>
    rw [List.range_succ_eq_map, List.flatMap_cons, List.flatMap_map]
    cases row with
    | zero =>
      rw [Nat.zero_mul, Nat.zero_add, List.getElem?_append_left (by rw [hwidth]; exact hcol)]
    | succ row =>
      have hindex : (row + 1) * width + col - (f 0).length = row * width + col := by
        rw [hwidth, Nat.succ_mul]
        omega
      rw [List.getElem?_append_right (by rw [hwidth, Nat.succ_mul]; omega), hindex]
      exact ih (fun n => hwidth (n + 1)) (Nat.lt_of_succ_lt_succ hrow)

theorem getElem?_cellsOf {cols rows : UInt32} {col row : Nat} (hcol : col < cols.toNat)
    (hrow : row < rows.toNat) :
    (cellsOf cols rows)[row * cols.toNat + col]? =
      some ⟨UInt32.ofNat col, UInt32.ofNat row⟩ := by
  rw [cellsOf_eq, flatMap_getElem? (length_rowOf cols) hcol hrow, rowOf]
  simp [hcol]

/-- The cells, each of them once, row after row. -/
structure Enumerated (b : Board) (cells : List Cell) : Prop where
  once : cells.Nodup
  all : ∀ c, c ∈ cells ↔ b.contains c = true
  byRows : ∀ c, b.contains c = true → cells[c.row.toNat * b.cols.toNat + c.col.toNat]? = some c
  count : cells.length = b.cols.toNat * b.rows.toNat

theorem contains_iff {b : Board} {c : Cell} :
    b.contains c = true ↔ c.col < b.cols ∧ c.row < b.rows := by
  rw [contains, Bool.and_eq_true, decide_eq_true_iff, decide_eq_true_iff]

theorem mem_cells {b : Board} {c : Cell} : c ∈ b.cells ↔ b.contains c = true :=
  mem_cellsOf.trans contains_iff.symm

theorem enumerated_cells (b : Board) : b.Enumerated b.cells where
  once := nodup_cellsOf b.cols b.rows
  all _ := mem_cells
  byRows c hc := by
    obtain ⟨hcol, hrow⟩ := contains_iff.mp hc
    rw [cells, getElem?_cellsOf (UInt32.lt_iff_toNat_lt.mp hcol) (UInt32.lt_iff_toNat_lt.mp hrow),
      UInt32.ofNat_toNat, UInt32.ofNat_toNat]
  count := length_cellsOf b.cols b.rows

end Board

end Tabletop
