import Tabletop.Grid
import Tabletop.Proofs.Decimal.Operations

/-!
# Points between two counts

`Grid.between` divides the way from one count to another in floating point numbers.

* `Grid.exists_divides`: it rounds three times before it goes to the nearest integer.
* `Grid.abs_between_sub_le`: the roundings make up less than `2 ^ -19` of a cell, so that
  `Grid.between_mem_uIcc` the point is on the way.
* `Grid.between_half_falling`, `Grid.between_half_rising`: half a cell of a way down is rounded up to
  where the way begins, and half a cell of a way up is rounded to the next cell.
-/

namespace Tabletop.Grid

open Decimal

/-- The point that divides the way from `a` to `b` as `n` of `d` parts, with the three roundings on
the way to it: the quotient, the product and the sum. -/
structure Divides (a b : UInt32) (n d : ℕ) (q p s : ℚ) : Prop where
  quotient : Rounded (n / d) q
  product : Rounded ((b.toNat - a.toNat : ℤ) * q) p
  sum : Rounded (a.toNat + p) s
  between : between a b (Float.ofNat n / Float.ofNat d) = roundAway s

section Divides

variable {a b : UInt32} {n d : ℕ}

theorem abs_toNat_sub_lt (a b : UInt32) : |((b.toNat - a.toNat : ℤ) : ℚ)| < 2 ^ 32 := by
  have ha := a.toNat_lt
  have hb := b.toNat_lt
  have habs : |(b.toNat - a.toNat : ℤ)| < 2 ^ 32 := abs_lt.mpr ⟨by omega, by omega⟩
  exact_mod_cast habs

theorem abs_quotient_lt (h : n < d) : |(n / d : ℚ)| < 1 := by
  rw [abs_of_nonneg (by positivity), div_lt_one (by exact_mod_cast (by omega : 0 < d))]
  exact_mod_cast h

theorem abs_quotient_sub_le {q : ℚ} (h : n < d) (hq : Rounded (n / d) q) :
    |q - n / d| ≤ 1 / 2 ^ 54 := by
  have hround := hq.abs_sub_le (N := -53) (by omega) (by simpa using abs_quotient_lt h)
  norm_num at hround ⊢
  exact hround

theorem abs_product_lt {q : ℚ} (h : n < d) (hq : Rounded (n / d) q) :
    |((b.toNat - a.toNat : ℤ) : ℚ) * q| < 2 ^ 33 := by
  have hone := abs_quotient_lt h
  have hround := abs_quotient_sub_le h hq
  have htwo : |q| < 2 := by
    rw [abs_lt] at hone ⊢
    rw [abs_le] at hround
    norm_num at hround
    constructor <;> linarith
  rw [abs_mul]
  calc _ < (2 ^ 32 * 2 : ℚ) :=
        mul_lt_mul'' (abs_toNat_sub_lt a b) htwo (abs_nonneg _) (abs_nonneg _)
    _ = 2 ^ 33 := by norm_num

theorem abs_product_sub_le {q p : ℚ} (h : n < d) (hq : Rounded (n / d) q)
    (hp : Rounded ((b.toNat - a.toNat : ℤ) * q) p) :
    |p - (b.toNat - a.toNat : ℤ) * q| ≤ 1 / 2 ^ 21 := by
  have hlt := abs_product_lt (a := a) (b := b) h hq
  have hround := hp.abs_sub_le (N := -20) (by omega) (by norm_num at hlt ⊢; exact hlt)
  norm_num at hround ⊢
  exact hround

theorem abs_sum_lt {q p : ℚ} (h : n < d) (hq : Rounded (n / d) q)
    (hp : Rounded ((b.toNat - a.toNat : ℤ) * q) p) : |(a.toNat : ℚ) + p| < 2 ^ 34 := by
  have ha : (a.toNat : ℚ) < 2 ^ 32 := by exact_mod_cast a.toNat_lt
  have ha' : (0 : ℚ) ≤ a.toNat := Nat.cast_nonneg _
  have hlt := abs_lt.mp (abs_product_lt (a := a) (b := b) h hq)
  have hround := abs_le.mp (abs_product_sub_le h hq hp)
  rw [abs_lt]
  norm_num only at ha hlt hround ⊢
  constructor <;> linarith

theorem exists_divides (a b : UInt32) (h : n < d) (hd : d < 2 ^ 53) :
    ∃ q p s, Divides a b n d q p s := by
  -- No number on the way is above `2 ^ 34`.
  have hhuge : ∀ {x : Float} {v : ℚ}, Nearest x v → |v| < 2 ^ 34 → Rounds x v := fun h hv =>
    h.rounds (hv.trans ((zpow_lt_zpow_right₀ (m := (34 : ℕ)) one_lt_two (by omega)).trans
      zpow_lt_threshold))
  have ha := hasValue_ofNat (n := a.toNat) (by have := a.toNat_lt; omega)
  have hb := hasValue_ofNat (n := b.toNat) (by have := b.toNat_lt; omega)
  have hdelta : HasValue (Float.ofNat b.toNat - Float.ofNat a.toNat)
      ((b.toNat - a.toNat : ℤ) : ℚ) := by
    have hlt := abs_toNat_sub_lt a b
    push_cast at hlt ⊢
    exact (hb.sub ha).hasValue (N := 0) (by omega) (by omega) (hlt.trans (by norm_num))
      ⟨b.toNat - a.toNat, by simp⟩
  have hd0 : (d : ℚ) ≠ 0 := by exact_mod_cast (by omega : d ≠ 0)
  obtain ⟨q, hqvalue, hq⟩ := hhuge
    ((hasValue_ofNat (n := n) (by omega)).div (hasValue_ofNat hd) hd0)
    ((abs_quotient_lt h).trans (by norm_num))
  obtain ⟨p, hpvalue, hp⟩ := hhuge (hdelta.mul hqvalue)
    ((abs_product_lt h hq).trans (by norm_num))
  obtain ⟨s, hsvalue, hs⟩ := hhuge (ha.add hpvalue) (abs_sum_lt h hq hp)
  refine ⟨q, p, s, hq, hp, hs, ?_⟩
  rw [between, nearestInt?_eq hsvalue, Option.getD_some]

namespace Divides

variable {q p s : ℚ}

theorem abs_sum_sub_le (hs : Divides a b n d q p s) (h : n < d) :
    |s - (a.toNat + (b.toNat - a.toNat : ℤ) * (n / d : ℚ))| ≤ 1 / 2 ^ 19 := by
  have hsum := hs.sum.abs_sub_le (N := -19) (by omega)
    (by have := abs_sum_lt h hs.quotient hs.product; norm_num at this ⊢; exact this)
  have hproduct := abs_product_sub_le h hs.quotient hs.product
  have hquotient := abs_quotient_sub_le h hs.quotient
  have hscaled : |((b.toNat - a.toNat : ℤ) : ℚ) * (q - n / d)| ≤ 2 ^ 32 * (1 / 2 ^ 54) := by
    rw [abs_mul]
    exact mul_le_mul (abs_toNat_sub_lt a b).le hquotient (abs_nonneg _) (by positivity)
  rw [abs_le] at hsum hproduct hscaled ⊢
  rw [mul_sub] at hscaled
  norm_num at hsum hproduct hscaled ⊢
  constructor <;> linarith

end Divides

theorem abs_between_sub_le (a b : UInt32) (h : n < d) (hd : d < 2 ^ 53) :
    |(between a b (Float.ofNat n / Float.ofNat d) : ℚ) -
      (a.toNat + (b.toNat - a.toNat : ℤ) * (n / d : ℚ))| ≤ 1 / 2 + 1 / 2 ^ 19 := by
  obtain ⟨q, p, s, hs⟩ := exists_divides a b h hd
  rw [hs.between]
  calc _ ≤ |(roundAway s : ℚ) - s| +
        |s - (a.toNat + (b.toNat - a.toNat : ℤ) * (n / d : ℚ))| := abs_sub_le _ _ _
    _ ≤ 1 / 2 + 1 / 2 ^ 19 := add_le_add (abs_roundAway_sub s) (hs.abs_sum_sub_le h)

theorem mem_Icc_of_abs_sub_lt {lo hi z : ℤ} {x : ℚ} (hx : x ∈ Set.Icc (lo : ℚ) hi)
    (h : |z - x| < 1) : z ∈ Set.Icc lo hi := by
  obtain ⟨hlow, hhigh⟩ := abs_lt.mp h
  have hlo : (lo : ℚ) < z + 1 := by linarith [hx.1]
  have hhi : (z : ℚ) < hi + 1 := by linarith [hx.2]
  exact ⟨Int.lt_add_one_iff.mp (by exact_mod_cast hlo),
    Int.lt_add_one_iff.mp (by exact_mod_cast hhi)⟩

theorem between_mem_uIcc (a b : UInt32) (h : n < d) (hd : d < 2 ^ 53) :
    between a b (Float.ofNat n / Float.ofNat d) ∈ Set.uIcc (a.toNat : ℤ) b.toNat := by
  have hnear := (abs_between_sub_le a b h hd).trans_lt (by norm_num : (1 / 2 + 1 / 2 ^ 19 : ℚ) < 1)
  have hpos : (0 : ℚ) ≤ n / d := by positivity
  have hone := (abs_lt.mp (abs_quotient_lt h)).2.le
  rcases le_total (a.toNat : ℤ) b.toNat with hle | hle
  · have hdelta : (0 : ℚ) ≤ (b.toNat - a.toNat : ℤ) := by exact_mod_cast Int.sub_nonneg_of_le hle
    rw [Set.uIcc_of_le hle]
    refine mem_Icc_of_abs_sub_lt ⟨?_, ?_⟩ hnear
    · push_cast at hdelta ⊢
      linarith [mul_nonneg hdelta hpos]
    · have hpart := mul_le_of_le_one_right hdelta hone
      push_cast at hpart ⊢
      linarith
  · have hdelta : ((b.toNat - a.toNat : ℤ) : ℚ) ≤ 0 := by exact_mod_cast Int.sub_nonpos_of_le hle
    rw [Set.uIcc_of_ge hle]
    refine mem_Icc_of_abs_sub_lt ⟨?_, ?_⟩ hnear
    · have hpart := le_mul_of_le_one_right hdelta hone
      push_cast at hpart ⊢
      linarith
    · have hpart := mul_nonpos_of_nonpos_of_nonneg hdelta hpos
      push_cast at hpart ⊢
      linarith

theorem natAbs_mul_le_of_between_eq {a b : UInt32} (h : n < d) (hd : d < 2 ^ 53)
    (heq : between a b (Float.ofNat n / Float.ofNat d) = a.toNat) :
    (b.toNat - a.toNat : ℤ).natAbs * n * 2 ^ 19 ≤ d * (2 ^ 18 + 1) := by
  have hd0 : (0 : ℚ) < d := by exact_mod_cast (by omega : 0 < d)
  have hnear := abs_between_sub_le a b h hd
  rw [heq, Int.cast_natCast, sub_add_cancel_left, abs_neg, abs_mul,
    abs_of_nonneg (a := (n / d : ℚ)) (by positivity), ← mul_div_assoc, div_le_iff₀ hd0,
    ← Int.cast_abs, Int.abs_eq_natAbs] at hnear
  have hscaled : (((b.toNat - a.toNat : ℤ).natAbs : ℤ) : ℚ) * n * 2 ^ 19 ≤ d * (2 ^ 18 + 1) := by
    norm_num at hnear ⊢
    linarith
  exact_mod_cast hscaled

/-! ## Half a step -/

theorem abs_mul_quotient_sub_lt {k : ℕ} (hpos : 0 < k) (hk : k < 2 ^ 32) {q : ℚ}
    (hq : Rounded (1 / (2 * k : ℕ)) q) : |k * q - 1 / 2| < 1 / 2 ^ 54 := by
  have hk0 : (0 : ℚ) < k := by exact_mod_cast hpos
  have hvalue : (k : ℚ) * (1 / (2 * k : ℕ)) = 1 / 2 := by
    push_cast
    field_simp
  have habs : |(1 / (2 * k : ℕ) : ℚ)| = 1 / (2 * k : ℕ) := abs_of_nonneg (by positivity)
  obtain ⟨j, hj⟩ : ∃ j, (2 * k).log2 = j := ⟨_, rfl⟩
  have hlow : 2 ^ j ≤ 2 * k := hj ▸ Nat.log2_self_le (by omega)
  have hhigh : 2 * k < 2 ^ (j + 1) := hj ▸ Nat.lt_log2_self
  have hsmall : j ≤ 32 := by
    have := (Nat.log2_lt (n := 2 * k) (k := 33) (by omega)).mpr (by omega)
    omega
  -- The quotient of a power of two is exact; any other is less than the power of two above it.
  rcases hlow.eq_or_lt with heq | hlt
  · have hexact : (1 / (2 * k : ℕ) : ℚ) = 2 ^ (-j : ℤ) := by
      rw [← heq, zpow_neg, zpow_natCast, one_div]
      push_cast
      rfl
    rw [hq.eq (N := -j) (by omega) ?_ ⟨1, by rw [hexact, Int.cast_one, one_mul]⟩, hvalue, sub_self,
      abs_zero]
    · positivity
    · rw [habs, hexact]
      exact zpow_lt_zpow_right₀ one_lt_two (by omega)
  · have hless : (1 / (2 * k : ℕ) : ℚ) < 2 ^ (-j : ℤ) := by
      rw [zpow_neg, zpow_natCast, ← one_div]
      exact one_div_lt_one_div_of_lt (by positivity) (by exact_mod_cast hlt)
    have hround := hq.abs_sub_le (N := -j - 53) (by omega) (by rw [habs, sub_add_cancel]; exact hless)
    have hkj : (k : ℚ) < 2 ^ j := by
      rw [pow_succ] at hhigh
      exact_mod_cast (by omega : k < 2 ^ j)
    rw [← hvalue, ← mul_sub, abs_mul, Nat.abs_cast]
    calc (k : ℚ) * |q - 1 / (2 * k : ℕ)| ≤ k * 2 ^ (-j - 53 - 1 : ℤ) :=
          mul_le_mul_of_nonneg_left hround hk0.le
      _ < 2 ^ j * 2 ^ (-j - 53 - 1 : ℤ) := mul_lt_mul_of_pos_right hkj (by positivity)
      _ = 2 ^ (-54 : ℤ) := by
          rw [← zpow_natCast, ← zpow_add₀ two_ne_zero]
          congr 1
          omega
      _ = 1 / 2 ^ 54 := by norm_num

/-- The product does not come out above one half. -/
theorem product_half {v p : ℚ} (hv : |v - 1 / 2| < 1 / 2 ^ 54) (hp : Rounded v p) :
    1 / 2 - 1 / 2 ^ 54 ≤ p ∧ p ≤ 1 / 2 := by
  obtain ⟨hlow, hhigh⟩ := abs_lt.mp hv
  norm_num only at hlow hhigh
  have habs : |v| = v := abs_of_nonneg (by linarith)
  have hone : |v| < 2 ^ (-53 + 53 : ℤ) := by
    norm_num [habs]
    linarith
  have hhalf : ∃ z : ℤ, (1 / 2 : ℚ) = z * 2 ^ (-53 : ℤ) := ⟨2 ^ 52, by norm_num⟩
  rcases lt_or_ge v (1 / 2) with hless | hmore
  · refine ⟨hp.ge (N := -54) (by omega) ?_ ⟨2 ^ 53 - 1, by norm_num⟩ ?_,
      hp.le (by omega) hone hhalf hless.le⟩
    · norm_num [habs]
      linarith
    · norm_num only
      linarith
  · refine ⟨le_trans (by norm_num) (hp.ge (by omega) hone hhalf hmore),
      hp.le_of_lt (M := -53) ?_ (by omega) hone hhalf ?_⟩
    · norm_num [habs]
      linarith
    · norm_num only
      linarith

theorem exists_half_multiple (z : ℤ) : ∃ i : ℤ, (z : ℚ) + 1 / 2 = i * 2 ^ (-19 : ℤ) :=
  ⟨(2 * z + 1) * 2 ^ 18, by push_cast; norm_num; ring⟩

/-- One part of `2 * k` on a way of `k` cells up or down: one half, or just below. -/
theorem exists_half {a b : UInt32} {k : ℕ} (hk : 0 < k)
    (h : (b.toNat - a.toNat : ℤ) = k ∨ (b.toNat - a.toNat : ℤ) = -k) :
    ∃ p s : ℚ, (1 / 2 - 1 / 2 ^ 54 ≤ p ∧ p ≤ 1 / 2) ∧
      Rounded (a.toNat + (b.toNat - a.toNat : ℤ).sign * p) s ∧
        |(a.toNat : ℚ) + (b.toNat - a.toNat : ℤ).sign * p| < 2 ^ (-19 + 53 : ℤ) ∧
          between a b (Float.ofNat 1 / Float.ofNat (2 * k)) = roundAway s := by
  have ha := a.toNat_lt
  have hb := b.toNat_lt
  obtain ⟨q, p, s, hq, hp, hs, hbetween⟩ :=
    exists_divides a b (n := 1) (d := 2 * k) (by omega) (by omega)
  have hmax : |(a.toNat : ℚ) + p| < 2 ^ (-19 + 53 : ℤ) := by
    have hlt := abs_sum_lt (by omega) hq hp
    norm_num only at hlt ⊢
    exact hlt
  rw [Nat.cast_one] at hq
  have hquotient := abs_mul_quotient_sub_lt hk (by omega) hq
  rcases h with hup | hdown
  · have hsign : (b.toNat - a.toNat : ℤ).sign = 1 := Int.sign_eq_one_of_pos (by omega)
    rw [hup, Int.cast_natCast] at hp
    refine ⟨p, s, ?_, ?_, ?_, hbetween⟩
    · exact product_half hquotient hp
    · rwa [hsign, Int.cast_one, one_mul]
    · rwa [hsign, Int.cast_one, one_mul]
  · have hsign : (b.toNat - a.toNat : ℤ).sign = -1 := Int.sign_eq_neg_one_of_neg (by omega)
    rw [hdown, Int.cast_neg, Int.cast_natCast, neg_mul] at hp
    have hp := hp.neg
    rw [neg_neg] at hp
    refine ⟨-p, s, ?_, ?_, ?_, hbetween⟩
    · exact product_half hquotient hp
    · rwa [hsign, Int.cast_neg, Int.cast_one, neg_mul_neg, one_mul]
    · rwa [hsign, Int.cast_neg, Int.cast_one, neg_mul_neg, one_mul]

theorem between_half_rising {a b : UInt32} {k : ℕ} (ha : 0 < a.toNat) (hk : 0 < k)
    (hb : b.toNat = a.toNat + k) :
    between a b (Float.ofNat 1 / Float.ofNat (2 * k)) = a.toNat + 1 := by
  obtain ⟨p, s, ⟨hlow, hhigh⟩, hs, hmax, hbetween⟩ :=
    exists_half (a := a) (b := b) hk (Or.inl (by omega))
  rw [Int.sign_eq_one_of_pos (by omega), Int.cast_one, one_mul] at hs hmax
  have ha' : (1 : ℚ) ≤ a.toNat := by exact_mod_cast ha
  norm_num only at hlow
  -- The sum is not below one, so its last place is `2 ^ -52` at least, and what is missing to one half
  -- is less than half of it.
  have hsum : s = a.toNat + 1 / 2 := by
    have hplace := exists_half_multiple a.toNat
    rw [Int.cast_natCast] at hplace
    refine le_antisymm (hs.le (by omega) hmax hplace (by linarith))
      (hs.ge_of_gt (M := -52) ?_ (by omega) hmax hplace ?_)
    · rw [abs_of_nonneg (by linarith)]
      norm_num only
      linarith
    · norm_num only
      linarith
  rw [hbetween, hsum, roundAway_eq_iff (by positivity)]
  push_cast
  constructor <;> linarith

theorem between_half_falling {a b : UInt32} {k : ℕ} (hk : 0 < k) (ha : a.toNat = b.toNat + k) :
    between a b (Float.ofNat 1 / Float.ofNat (2 * k)) = a.toNat := by
  obtain ⟨p, s, ⟨hlow, hhigh⟩, hs, hmax, hbetween⟩ :=
    exists_half (a := a) (b := b) hk (Or.inr (by omega))
  rw [Int.sign_eq_neg_one_of_neg (by omega), Int.cast_neg, Int.cast_one, neg_mul, one_mul] at hs hmax
  have ha' : (1 : ℚ) ≤ a.toNat := by exact_mod_cast (by omega : 1 ≤ a.toNat)
  have hplace := exists_half_multiple (a.toNat - 1)
  push_cast at hplace
  have hge := hs.ge (by omega) hmax hplace (by linarith)
  have hnear := (abs_le.mp (hs.abs_sub_le (by omega) hmax)).2
  norm_num only at hlow hge hnear
  rw [hbetween, roundAway_eq_iff (by linarith)]
  push_cast
  constructor <;> linarith

end Divides

end Tabletop.Grid
