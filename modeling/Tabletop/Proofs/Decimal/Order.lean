import Tabletop.Proofs.Decimal.Operations

/-!
# The order of floating point numbers

* `HasValue.lt_iff`, `HasValue.le_iff`: floating point numbers are compared like the numbers that they
  stand for.
* `Decimal.isFinite_iff`: those that stand for a number are the finite ones.
  `Decimal.isFinite_of_between`: between two of them there is nothing else.
-/

namespace Tabletop.Decimal

open Float.Model (UnpackedFloat)
open Float.Model.UnpackedFloat

theorem isFinite_iff {x : Float} : x.isFinite = true ↔ ∃ v, HasValue x v := by
  change x.toModel.unpack.isFinite = true ↔ ∃ v, value? x.toModel.unpack = some v
  cases x.toModel.unpack <;> simp [UnpackedFloat.isFinite, value?]

/-- What is not finite can be packed and is the same afterwards. -/
theorem unpack_pack_of_not_finite {u : UnpackedFloat} (h : u.isFinite = false) :
    (Float.Model.pack u).unpack = u := by
  cases u with
  | notANumber => exact unpack_packedNaN
  | infinity s => exact unpack_pack_infinity s
  | zero s => cases h
  | finite s m e hm => cases h

theorem isFinite_add {a b : UnpackedFloat} (h : a.isFinite = false ∨ b.isFinite = false) :
    (UnpackedFloat.add .binary64 a b).isFinite = false := by
  cases a <;> cases b <;> simp only [UnpackedFloat.isFinite, Bool.true_eq_false, or_self] at h <;>
    simp only [UnpackedFloat.add] <;> try rfl
  split <;> rfl

theorem isFinite_sub {a b : UnpackedFloat} (h : a.isFinite = false ∨ b.isFinite = false) :
    (UnpackedFloat.sub .binary64 a b).isFinite = false := by
  cases a <;> cases b <;> simp only [UnpackedFloat.isFinite, Bool.true_eq_false, or_self] at h <;>
    simp only [UnpackedFloat.sub] <;> try rfl
  split <;> rfl

/-- Only finite numbers have a finite difference. -/
theorem isFinite_of_sub {x y : Float} (h : (x - y).isFinite = true) :
    x.isFinite = true ∧ y.isFinite = true := by
  by_contra hnot
  have hinfinite := isFinite_sub (a := x.toModel.unpack) (b := y.toModel.unpack) <| by
    rw [not_and_or, Bool.not_eq_true, Bool.not_eq_true] at hnot
    exact hnot
  have hsub : (x - y).isFinite = (Float.Model.pack
      (UnpackedFloat.sub .binary64 x.toModel.unpack y.toModel.unpack)).unpack.isFinite := rfl
  rw [hsub, unpack_pack_of_not_finite hinfinite, hinfinite] at h
  cases h

/-- An infinity stays one when it is divided. -/
theorem isFinite_div_of_infinite {x y : Float} {s : Sign} {w : ℚ}
    (hx : x.toModel.unpack = .infinity s) (hy : HasValue y w) : (x / y).isFinite = false := by
  change (Float.Model.pack
    (UnpackedFloat.div .binary64 x.toModel.unpack y.toModel.unpack)).unpack.isFinite = false
  obtain ⟨s', hu, -⟩ | ⟨s', m, e, hm, hu, -⟩ := value?_eq_some hy
  · rw [hx, hu, unpack_pack_of_not_finite rfl]
    rfl
  · rw [hx, hu, unpack_pack_of_not_finite rfl]
    rfl

/-! ## Mantissas -/

/-- The larger exponent has the larger number, whatever the mantissas are. -/
theorem mantissa_lt_of_lt {m₁ m₂ : ℕ} {e₁ e₂ : ℤ} (hwidth : m₁ < 2 ^ 53) (hleast : -1074 ≤ e₁)
    (hfull : 2 ^ 52 ≤ m₂ ∨ e₂ = -1074) (he : e₁ < e₂) : (m₁ : ℚ) * 2 ^ e₁ < m₂ * 2 ^ e₂ := by
  have hm₁ : (m₁ : ℚ) < 2 ^ 53 := by exact_mod_cast hwidth
  have hm₂ : (2 : ℚ) ^ 52 ≤ m₂ := by exact_mod_cast hfull.resolve_right (by omega)
  have hpos : (0 : ℚ) < 2 ^ e₁ := by positivity
  calc (m₁ : ℚ) * 2 ^ e₁ < 2 ^ 53 * 2 ^ e₁ := mul_lt_mul_of_pos_right hm₁ hpos
    _ = 2 ^ 52 * 2 ^ (e₁ + 1) := by
        rw [zpow_add_one₀ two_ne_zero]
        ring
    _ ≤ 2 ^ 52 * 2 ^ e₂ :=
        mul_le_mul_of_nonneg_left (zpow_le_zpow_right₀ one_le_two (by omega)) (by positivity)
    _ ≤ m₂ * 2 ^ e₂ := mul_le_mul_of_nonneg_right hm₂ (by positivity)

theorem compare_mul_of_pos (a b : ℚ) {c : ℚ} (hc : 0 < c) :
    compare (a * c) (b * c) = compare a b := by
  rw [← cmp_eq_compare, ← cmp_eq_compare, cmp_mul_pos_right hc]

theorem compare_neg_neg (a b : ℚ) : compare (-a) (-b) = (compare a b).swap := by
  rw [← cmp_eq_compare, ← cmp_eq_compare, cmp_swap]
  exact StrictAnti.cmp_map_eq (fun _ _ => neg_lt_neg) a b

theorem compare_natCast (m n : ℕ) : compare (m : ℚ) n = compare m n := by
  rw [← cmp_eq_compare, ← cmp_eq_compare]
  exact Nat.strictMono_cast.cmp_map_eq m n

variable {x y : Float} {v w : ℚ}

theorem compare_mantissa {s₁ s₂ : Sign} {m₁ m₂ : ℕ} {e₁ e₂ : ℤ} {hm₁ : 0 < m₁} {hm₂ : 0 < m₂}
    (hx : x.toModel.unpack = .finite s₁ m₁ e₁ hm₁) (hy : y.toModel.unpack = .finite s₂ m₂ e₂ hm₂) :
    (compare e₁ e₂).then (compare m₁ m₂) = compare ((m₁ : ℚ) * 2 ^ e₁) (m₂ * 2 ^ e₂) := by
  obtain ⟨hwidth₁, hleast₁, hfull₁⟩ := full_or_least hx
  obtain ⟨hwidth₂, hleast₂, hfull₂⟩ := full_or_least hy
  rcases lt_trichotomy e₁ e₂ with he | rfl | he
  · rw [compare_lt_iff_lt.mpr he, compare_lt_iff_lt.mpr (mantissa_lt_of_lt hwidth₁ hleast₁ hfull₂ he)]
    rfl
  · rw [compare_eq_iff_eq.mpr rfl, compare_mul_of_pos _ _ (by positivity), compare_natCast]
    rfl
  · rw [compare_gt_iff_gt.mpr he, compare_gt_iff_gt.mpr (mantissa_lt_of_lt hwidth₂ hleast₂ hfull₁ he)]
    rfl

/-! ## Comparisons -/

theorem HasValue.compare_eq (hx : HasValue x v) (hy : HasValue y w) :
    x.toModel.unpack.compare y.toModel.unpack = some (compare v w) := by
  obtain ⟨s₁, hu₁, rfl⟩ | ⟨s₁, m₁, e₁, hm₁, hu₁, rfl⟩ := value?_eq_some hx <;>
    obtain ⟨s₂, hu₂, rfl⟩ | ⟨s₂, m₂, e₂, hm₂, hu₂, rfl⟩ := value?_eq_some hy
  · rw [hu₁, hu₂, compare_eq_iff_eq.mpr rfl]
    rfl
  · have hpos : (0 : ℚ) < m₂ * 2 ^ e₂ := by positivity
    rw [hu₁, hu₂]
    cases s₂
    · rw [compare_gt_iff_gt.mpr (by rw [signed]; linarith)]
      rfl
    · rw [compare_lt_iff_lt.mpr (by rw [signed]; linarith)]
      rfl
  · have hpos : (0 : ℚ) < m₁ * 2 ^ e₁ := by positivity
    rw [hu₁, hu₂]
    cases s₁
    · rw [compare_lt_iff_lt.mpr (by rw [signed]; linarith)]
      rfl
    · rw [compare_gt_iff_gt.mpr (by rw [signed]; linarith)]
      rfl
  · have hpos₁ : (0 : ℚ) < m₁ * 2 ^ e₁ := by positivity
    have hpos₂ : (0 : ℚ) < m₂ * 2 ^ e₂ := by positivity
    have hmantissa := compare_mantissa hu₁ hu₂
    rw [hu₁, hu₂]
    cases s₁ <;> cases s₂
    · change some ((compare e₁ e₂).then (compare m₁ m₂)).swap = _
      rw [hmantissa, signed, neg_one_mul, neg_one_mul, compare_neg_neg]
    · rw [compare_lt_iff_lt.mpr (by rw [signed, signed]; linarith)]
      rfl
    · rw [compare_gt_iff_gt.mpr (by rw [signed, signed]; linarith)]
      rfl
    · change some ((compare e₁ e₂).then (compare m₁ m₂)) = _
      rw [hmantissa, signed, one_mul, one_mul]

theorem lt_iff_compare : x < y ↔ x.toModel.unpack.compare y.toModel.unpack = some .lt := by
  have hlt : x < y ↔ (x.toModel.unpack.compare y.toModel.unpack == some .lt) = true := by
    change decide (_ = true) = true ↔ _
    rw [decide_eq_true_iff]
    rfl
  rw [hlt, beq_iff_eq]

theorem le_iff_compare :
    x ≤ y ↔ (x.toModel.unpack.compare y.toModel.unpack).any (·.isLE) = true := by
  change decide (_ = true) = true ↔ _
  rw [decide_eq_true_iff]
  rfl

theorem HasValue.lt_iff (hx : HasValue x v) (hy : HasValue y w) : x < y ↔ v < w := by
  rw [lt_iff_compare, hx.compare_eq hy, Option.some.injEq, compare_lt_iff_lt]

theorem HasValue.le_iff (hx : HasValue x v) (hy : HasValue y w) : x ≤ y ↔ v ≤ w := by
  rw [le_iff_compare, hx.compare_eq hy, Option.any_some, ← Ordering.ne_gt_iff_isLE]
  exact compare_le_iff_le

theorem HasValue.le_trans {z : Float} {u : ℚ} (hx : HasValue x v) (hy : HasValue y w)
    (hz : HasValue z u) (h : x ≤ y) (h' : y ≤ z) : x ≤ z := by
  rw [hx.le_iff hy] at h
  rw [hy.le_iff hz] at h'
  rw [hx.le_iff hz]
  exact h.trans h'

/-- What is between two numbers is a number. -/
theorem isFinite_of_between {low high : Float} (hlow : HasValue low v) (hhigh : HasValue high w)
    (hle : low ≤ x) (hle' : x ≤ high) : x.isFinite = true := by
  rw [le_iff_compare] at hle hle'
  change x.toModel.unpack.isFinite = true
  cases hx : x.toModel.unpack with
  | notANumber =>
    rw [hx] at hle'
    cases hle'
  | infinity s =>
    rw [hx] at hle hle'
    cases s with
    | positive =>
      obtain ⟨s, hu, -⟩ | ⟨s, m, e, hm, hu, -⟩ := value?_eq_some hhigh <;>
        rw [hu] at hle' <;> cases hle'
    | negative =>
      obtain ⟨s, hu, -⟩ | ⟨s, m, e, hm, hu, -⟩ := value?_eq_some hlow <;>
        rw [hu] at hle <;> cases hle
  | zero s => rfl
  | finite s m e hm => rfl

end Tabletop.Decimal
