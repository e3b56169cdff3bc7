import Tabletop.Decimal.Hypotenuse
import Tabletop.Proofs.Decimal.Order

/-!
# Zeros and what is no number

* `Decimal.add_of_zero`: a zero makes no difference to a sum, unless the other number is the negative
  zero, and `Decimal.add_ne_negative_zero` that this one does not come out of other numbers.
* `Decimal.isNaN_add` and its like: what is no number makes no number. `Decimal.isNaN_mul_zero`: a zero
  makes none of what is not finite.
* `Decimal.Small.add_sub_mul_eq_iff`: who goes no part of the way to a small number stays, unless the
  place is infinite.
-/

namespace Tabletop.Decimal

open Float.Model (UnpackedFloat)
open Float.Model.UnpackedFloat

variable {x y d f : Float} {v w : ℚ}

theorem ext_unpack (h : x.toModel.unpack = y.toModel.unpack) : x = y := by
  refine Float.toBits_inj.mp (UInt64.toBitVec_inj.mp ?_)
  exact (unpack_inj_of_valid x.toModel.valid y.toModel.valid).mp h

theorem pack_unpack_self (x : Float) : Float.ofModel (Float.Model.pack x.toModel.unpack) = x := by
  refine Float.toBits_inj.mp (UInt64.toBitVec_inj.mp ?_)
  exact pack_unpack_of_valid x.toModel.valid

theorem unpack_pack_unpack (x : Float) :
    (Float.Model.pack x.toModel.unpack).unpack = x.toModel.unpack :=
  congrArg (·.toModel.unpack) (pack_unpack_self x)

/-! ## What is no number -/

theorem isNaN_iff : x.isNaN = true ↔ x.toModel.unpack = .notANumber := by
  change x.toModel.unpack.isNaN = true ↔ _
  exact Float.Model.UnpackedFloat.isNaN_iff

theorem eq_of_isNaN (hx : x.isNaN = true) (hy : y.isNaN = true) : x = y :=
  ext_unpack ((isNaN_iff.mp hx).trans (isNaN_iff.mp hy).symm)

theorem isNaN_pack {u : UnpackedFloat} (h : u = .notANumber) :
    (Float.ofModel (Float.Model.pack u)).isNaN = true := by
  rw [isNaN_iff, h]
  exact unpack_pack_of_not_finite rfl

theorem isNaN_add (h : x.isNaN = true ∨ y.isNaN = true) : (x + y).isNaN = true := by
  refine isNaN_pack (u := UnpackedFloat.add .binary64 x.toModel.unpack y.toModel.unpack) ?_
  rw [isNaN_iff, isNaN_iff] at h
  rcases h with h | h
  · rw [h, UnpackedFloat.add]
  · rw [h]
    cases x.toModel.unpack <;> rfl

theorem isNaN_sub (h : y.isNaN = true) : (x - y).isNaN = true := by
  refine isNaN_pack (u := UnpackedFloat.sub .binary64 x.toModel.unpack y.toModel.unpack) ?_
  rw [isNaN_iff.mp h]
  cases x.toModel.unpack <;> rfl

theorem isNaN_mul (h : y.isNaN = true) : (x * y).isNaN = true := by
  refine isNaN_pack (u := UnpackedFloat.mul .binary64 x.toModel.unpack y.toModel.unpack) ?_
  rw [isNaN_iff.mp h]
  cases x.toModel.unpack <;> rfl

theorem isNaN_div (h : x.isNaN = true ∨ y.isNaN = true) : (x / y).isNaN = true := by
  refine isNaN_pack (u := UnpackedFloat.div .binary64 x.toModel.unpack y.toModel.unpack) ?_
  rw [isNaN_iff, isNaN_iff] at h
  rcases h with h | h
  · rw [h, UnpackedFloat.div]
  · rw [h]
    cases x.toModel.unpack <;> rfl

theorem compare_of_isNaN (h : x.isNaN = true ∨ y.isNaN = true) :
    x.toModel.unpack.compare y.toModel.unpack = none := by
  rw [isNaN_iff, isNaN_iff] at h
  rcases h with h | h
  · rw [h, UnpackedFloat.compare]
  · rw [h]
    cases x.toModel.unpack <;> rfl

theorem not_lt_of_isNaN (h : x.isNaN = true ∨ y.isNaN = true) : ¬ x < y := by
  rw [lt_iff_compare, compare_of_isNaN h]
  simp

theorem not_le_of_isNaN (h : x.isNaN = true ∨ y.isNaN = true) : ¬ x ≤ y := by
  rw [le_iff_compare, compare_of_isNaN h]
  simp

/-! ## Zeros -/

theorem unpack_pack_zero (s : Sign) : (Float.Model.pack (.zero s)).unpack = .zero s :=
  unpack_packedZero

theorem hasValue_zero_iff : HasValue x 0 ↔ ∃ s, x.toModel.unpack = .zero s := by
  constructor
  · intro h
    obtain ⟨s, hu, -⟩ | ⟨s, m, e, hm, hu, hv⟩ := value?_eq_some h
    · exact ⟨s, hu⟩
    · have hpos : (0 : ℚ) < m * 2 ^ e := by positivity
      have habs := abs_signed_mul s (m * 2 ^ e)
      rw [← hv, abs_zero, abs_of_pos hpos] at habs
      exact absurd habs hpos.ne
  · rintro ⟨s, hu⟩
    rw [HasValue, hu, value?]

theorem ne_negative_zero_iff : x ≠ -0.0 ↔ x.toModel.unpack ≠ .zero .negative := by
  have hzero : (-0.0 : Float).toModel.unpack = .zero .negative := rfl
  rw [← hzero]
  exact not_congr ⟨fun h => by rw [h], ext_unpack⟩

/-- A zero makes no difference, except to the negative zero. -/
theorem add_of_zero (hx : x ≠ -0.0) (hy : HasValue y 0) : x + y = x := by
  obtain ⟨s, hu⟩ := hasValue_zero_iff.mp hy
  rw [ne_negative_zero_iff] at hx
  have hadd : UnpackedFloat.add .binary64 x.toModel.unpack y.toModel.unpack = x.toModel.unpack := by
    rw [hu]
    generalize x.toModel.unpack = u at hx
    cases u with
    | zero s' =>
      cases s'
      · exact absurd rfl hx
      · cases s <;> rfl
    | _ => rfl
  change Float.ofModel (Float.Model.pack (UnpackedFloat.add .binary64 _ _)) = x
  rw [hadd, pack_unpack_self]

theorem HasValue.mul_of_zero (hx : HasValue x v) (hy : HasValue y 0) : HasValue (x * y) 0 := by
  have hproduct := hx.mul hy
  rw [mul_zero] at hproduct
  exact hproduct.hasValue (N := 0) (by omega) (by omega) (by simp) ⟨0, by simp⟩

theorem isNaN_mul_zero (hx : x.isFinite = false) (hy : HasValue y 0) : (x * y).isNaN = true := by
  obtain ⟨s, hu⟩ := hasValue_zero_iff.mp hy
  refine isNaN_pack (u := UnpackedFloat.mul .binary64 x.toModel.unpack y.toModel.unpack) ?_
  change x.toModel.unpack.isFinite = false at hx
  rw [hu]
  generalize x.toModel.unpack = u at hx
  cases u with
  | notANumber => rfl
  | infinity s' => rfl
  | zero s' => cases hx
  | finite s' m e hm => cases hx

theorem not_le_zero_iff (hx : HasValue x 0) (hy : HasValue y 0) :
    ¬ d ≤ x ↔ d.isNaN = true ∨ y < d := by
  obtain ⟨s₁, hu₁⟩ := hasValue_zero_iff.mp hx
  obtain ⟨s₂, hu₂⟩ := hasValue_zero_iff.mp hy
  rw [isNaN_iff, lt_iff_compare, le_iff_compare, hu₁, hu₂]
  cases d.toModel.unpack with
  | notANumber => exact iff_of_true nofun (.inl rfl)
  | zero s => exact iff_of_false (fun h => h rfl) nofun
  | infinity s =>
    cases s
    · exact iff_of_false (fun h => h rfl) nofun
    · exact iff_of_true nofun (.inr rfl)
  | finite s m e hm =>
    cases s
    · exact iff_of_false (fun h => h rfl) nofun
    · exact iff_of_true nofun (.inr rfl)

theorem hasValue_zero_div (hx : HasValue x 0) (hy : HasValue y 0) (h : y < d) :
    HasValue (x / d) 0 := by
  obtain ⟨s₁, hu₁⟩ := hasValue_zero_iff.mp hx
  obtain ⟨s₂, hu₂⟩ := hasValue_zero_iff.mp hy
  rw [lt_iff_compare, hu₂] at h
  rw [hasValue_zero_iff]
  change ∃ s, (Float.Model.pack
    (UnpackedFloat.div .binary64 x.toModel.unpack d.toModel.unpack)).unpack = .zero s
  rw [hu₁]
  generalize d.toModel.unpack = u at h
  cases u with
  | notANumber => cases h
  | zero s => cases h
  | infinity s => exact ⟨_, unpack_pack_zero _⟩
  | finite s m e hm => exact ⟨_, unpack_pack_zero _⟩

theorem Rounded.eq_zero (h : Rounded v 0) (hv : ∃ z : ℤ, v = z * 2 ^ (-1074 : ℤ)) : v = 0 := by
  obtain ⟨p, hp⟩ := h
  have hnear := hp.near
  rw [zero_sub, abs_neg] at hnear
  rcases hp.full with hfull | rfl
  · have hpow : (2 : ℚ) ^ (p - 1) < 2 ^ (p + 52) := zpow_lt_zpow_right₀ one_lt_two (by omega)
    exact absurd (hfull.trans hnear) hpow.not_ge
  · have hpow : (2 : ℚ) ^ (-1074 - 1 : ℤ) < 2 ^ (-1074 + 53 : ℤ) :=
      zpow_lt_zpow_right₀ one_lt_two (by omega)
    exact (Rounded.eq ⟨-1074, hp⟩ le_rfl (hnear.trans_lt hpow) hv).symm

/-- A sum that is not zero is not rounded to zero. -/
theorem normalize_ne_negative_zero (i : ℤ) {e : ℤ} (he : -1074 ≤ e) :
    (Float.Model.pack (UnpackedFloat.normalize .binary64 i e .positive)).unpack ≠
      .zero .negative := by
  intro h
  have hzero : HasValue (.ofModel (Float.Model.pack
      (UnpackedFloat.normalize .binary64 i e .positive))) 0 := hasValue_zero_iff.mpr ⟨_, h⟩
  obtain ⟨w, hw, hrounded⟩ := (nearest_normalize .positive i e).rounds_of_hasValue hzero
  obtain rfl := hzero.unique hw
  have hsum := hrounded.eq_zero (exists_multiple_of_le he ⟨i, rfl⟩)
  have hi : i = 0 := by
    rw [mul_eq_zero] at hsum
    exact_mod_cast hsum.resolve_right (by positivity)
  have hnormal : UnpackedFloat.normalize .binary64 0 e .positive = .zero .positive := rfl
  rw [hi, hnormal, unpack_pack_zero] at h
  cases h

/-- Only two negative zeros have the sum negative zero. -/
theorem add_ne_negative_zero (hx : x ≠ -0.0) : x + y ≠ -0.0 := by
  rw [ne_negative_zero_iff] at hx ⊢
  change (Float.Model.pack
    (UnpackedFloat.add .binary64 x.toModel.unpack y.toModel.unpack)).unpack ≠ _
  by_cases hfinite : x.isFinite = true ∧ y.isFinite = true
  · obtain ⟨v, hv⟩ := isFinite_iff.mp hfinite.1
    obtain ⟨w, hw⟩ := isFinite_iff.mp hfinite.2
    obtain ⟨s₁, hu₁, rfl⟩ | ⟨s₁, m₁, e₁, hm₁, hu₁, rfl⟩ := value?_eq_some hv <;>
      obtain ⟨s₂, hu₂, rfl⟩ | ⟨s₂, m₂, e₂, hm₂, hu₂, rfl⟩ := value?_eq_some hw
    · rw [hu₁] at hx ⊢
      rw [hu₂]
      cases s₁
      · exact absurd rfl hx
      · have hsum : UnpackedFloat.add .binary64 (.zero .positive) (.zero s₂) = .zero .positive := by
          cases s₂ <;> rfl
        rw [hsum, unpack_pack_zero]
        simp
    · have hsum : UnpackedFloat.add .binary64 x.toModel.unpack y.toModel.unpack =
          y.toModel.unpack := by rw [hu₁, hu₂]; rfl
      rw [hsum, unpack_pack_unpack, hu₂]
      simp
    · have hsum : UnpackedFloat.add .binary64 x.toModel.unpack y.toModel.unpack =
          x.toModel.unpack := by rw [hu₁, hu₂]; rfl
      rw [hsum, unpack_pack_unpack, hu₁]
      simp
    · rw [hu₁, hu₂]
      refine normalize_ne_negative_zero _ ?_
      exact le_min (full_or_least hu₁).2.1 (full_or_least hu₂).2.1
  · have hinfinite := isFinite_add (a := x.toModel.unpack) (b := y.toModel.unpack) <| by
      rwa [not_and_or, Bool.not_eq_true, Bool.not_eq_true] at hfinite
    rw [unpack_pack_of_not_finite hinfinite]
    intro h
    rw [h] at hinfinite
    cases hinfinite

/-- A zero times a positive number. -/
theorem zero_mul_of_pos (hfinite : x.isFinite = true) (hpos : 0.0 < x) : 0.0 * x = 0.0 := by
  have hzero : (0.0 : Float).toModel.unpack = .zero .positive := rfl
  rw [lt_iff_compare, hzero] at hpos
  change x.toModel.unpack.isFinite = true at hfinite
  refine ext_unpack ?_
  change (Float.Model.pack
    (UnpackedFloat.mul .binary64 (0.0 : Float).toModel.unpack x.toModel.unpack)).unpack = _
  rw [hzero]
  generalize x.toModel.unpack = u at hpos hfinite
  cases u with
  | notANumber => cases hfinite
  | infinity s => cases hfinite
  | zero s => cases hpos
  | finite s m e hm =>
    cases s
    · cases hpos
    · exact unpack_pack_zero _

theorem zero_ne_negative_zero : (0.0 : Float) ≠ -0.0 := by decide +kernel

theorem ofNat_ne_negative_zero {n : ℕ} (hn : n < 2 ^ 53) : Float.ofNat n ≠ -0.0 := by
  intro h
  have hzero : HasValue (Float.ofNat n) 0 := h ▸ hasValue_zero_iff.mpr ⟨.negative, rfl⟩
  have hcast : (n : ℚ) = 0 := (hasValue_ofNat hn).unique hzero
  obtain rfl : n = 0 := by exact_mod_cast hcast
  exact absurd h (by decide +kernel)

/-! ## What is not finite -/

theorem isInf_eq_false_iff : x.isInf = false ↔ x.isFinite = true ∨ x.isNaN = true := by
  change x.toModel.unpack.isInf = false ↔
    x.toModel.unpack.isFinite = true ∨ x.toModel.unpack.isNaN = true
  cases x.toModel.unpack <;> simp [UnpackedFloat.isInf, UnpackedFloat.isFinite,
    UnpackedFloat.isNaN]

theorem isFinite_of_isNaN (h : x.isNaN = true) : x.isFinite = false := by
  change x.toModel.unpack.isFinite = false
  rw [isNaN_iff.mp h]
  rfl

theorem isNaN_hypotenuse (hx : x.isInf = false) (hy : y.isInf = false)
    (h : x.isNaN = true ∨ y.isNaN = true) : (hypotenuse x y).isNaN = true := by
  have hfinite : (x.isFinite && y.isFinite) = false := by
    rcases h with h | h
    · rw [isFinite_of_isNaN h, Bool.false_and]
    · rw [isFinite_of_isNaN h, Bool.and_false]
  rw [hypotenuse, hfinite, hx, hy]
  exact isNaN_add h

/-- A number that is too small for its differences to be infinite. -/
def Small (x : Float) : Prop := ∃ v, HasValue x v ∧ |v| < 2 ^ (970 : ℤ)

theorem small_ofNat {n : ℕ} (hn : n < 2 ^ 53) : Small (Float.ofNat n) := by
  have hcast : (n : ℚ) < 2 ^ (53 : ℤ) := by exact_mod_cast hn
  have hpow : (2 : ℚ) ^ (53 : ℤ) < 2 ^ (970 : ℤ) := zpow_lt_zpow_right₀ one_lt_two (by omega)
  refine ⟨n, hasValue_ofNat hn, ?_⟩
  rw [Nat.abs_cast]
  exact hcast.trans hpow

namespace Small

theorem isFinite_sub (hx : Small x) (hy : y.isFinite = true) : (x - y).isFinite = true := by
  obtain ⟨v, hv, hsmall⟩ := hx
  obtain ⟨w, hw⟩ := isFinite_iff.mp hy
  have hless : |v - w| < threshold := by
    rw [← largest_add_half, add_comm]
    exact (abs_sub v w).trans_lt (add_lt_add_of_lt_of_le hsmall hw.abs_le_largest)
  obtain ⟨u, hu, -⟩ := (hv.sub hw).rounds hless
  exact isFinite_iff.mpr ⟨u, hu⟩

theorem isInf_sub (hx : Small x) (hy : y.isInf = false) : (x - y).isInf = false := by
  rw [isInf_eq_false_iff] at hy ⊢
  exact hy.imp hx.isFinite_sub isNaN_sub

/-- The part zero of the way to a small number leaves a number where it is, unless it is infinite. -/
theorem add_sub_mul_eq_iff (hx : Small x) (hy : y ≠ -0.0) (hf : HasValue f 0) :
    y + (x - y) * f = y ↔ y.isInf = false := by
  rw [isInf_eq_false_iff]
  cases hfinite : y.isFinite with
  | true =>
    obtain ⟨u, hu⟩ := isFinite_iff.mp (hx.isFinite_sub hfinite)
    exact iff_of_true (add_of_zero hy (hu.mul_of_zero hf)) (.inl rfl)
  | false =>
    have hdifference : (x - y).isFinite = false := by
      rw [← Bool.not_eq_true]
      intro h
      rw [(isFinite_of_sub h).2] at hfinite
      cases hfinite
    have hsum := isNaN_add (x := y) (.inr (isNaN_mul_zero hdifference hf))
    constructor
    · intro h
      rw [h] at hsum
      exact .inr hsum
    · rintro (h | h)
      · cases h
      · exact eq_of_isNaN hsum h

end Small

end Tabletop.Decimal
