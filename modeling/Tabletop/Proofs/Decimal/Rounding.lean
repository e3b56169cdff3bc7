import Tabletop.Proofs.Decimal.Packing

/-!
# Rounding of floating point numbers

* `Decimal.Rounded v w`: of the multiples of the last place of `v`, `w` is the nearest one, and of two
  that are as near, the even one. `Rounded.le` and `Rounded.ge` compare it with other multiples, and
  `Rounded.mono` with what another number is rounded to.
* `Decimal.Nearest`: the floating point number that is nearest to a number, or an infinity beyond the
  `Decimal.threshold`.
* `Decimal.nearest_roundWithAccuracy`: a mantissa that is too wide for a floating point number is
  rounded. `Decimal.HasValue.rounds`: what has room is left as it is.
-/

namespace Tabletop.Decimal

open Float.Model (UnpackedFloat Format totalExponent)
open Float.Model.UnpackedFloat

/-! ## Mantissas with a round bit and a sticky bit -/

/-- The mantissa with its two bits stands for the number `t`. -/
def Holds (em : ExtendedMantissa) (t : ℚ) : Prop :=
  match em.roundBit, em.stickyBit with
  | false, false => t = em.mantissa
  | false, true => em.mantissa < t ∧ t < em.mantissa + 1 / 2
  | true, false => t = em.mantissa + 1 / 2
  | true, true => em.mantissa + 1 / 2 < t ∧ t < em.mantissa + 1

theorem holds_exact (m : ℕ) : Holds (.ofMantissaAndAccuracy m .exact) m := rfl

theorem mantissa_ofMantissaAndAccuracy (m : ℕ) (accuracy : Accuracy) :
    (ExtendedMantissa.ofMantissaAndAccuracy m accuracy).mantissa = m := by
  rcases accuracy with _ | _ | _ | _ <;> rfl

theorem Holds.shiftRightOne {em : ExtendedMantissa} {t : ℚ} (h : Holds em t) :
    Holds em.shiftRightOne (t / 2) := by
  obtain ⟨m, round, sticky⟩ := em
  have hdiv : (m : ℚ) = 2 * (m / 2 : ℕ) + (m % 2 : ℕ) := by
    exact_mod_cast (Nat.div_add_mod m 2).symm
  rcases Nat.mod_two_eq_zero_or_one m with hmod | hmod <;> rw [hmod] at hdiv <;>
    cases round <;> cases sticky <;>
    simp [Holds, ExtendedMantissa.shiftRightOne, hmod] at h hdiv ⊢ <;>
    grind

theorem Holds.shiftRight {em : ExtendedMantissa} {t : ℚ} (h : Holds em t) (k : ℕ) :
    Holds (em >>> k) (t / 2 ^ k) := by
  change Holds (Nat.repeat ExtendedMantissa.shiftRightOne k em) _
  induction k with
  | zero => simpa [Nat.repeat] using h
  | succ k ih =>
    rw [pow_succ, ← div_div]
    exact ih.shiftRightOne

theorem mantissa_shiftRight (em : ExtendedMantissa) (k : ℕ) :
    (em >>> k).mantissa = em.mantissa / 2 ^ k := by
  change (Nat.repeat ExtendedMantissa.shiftRightOne k em).mantissa = _
  induction k with
  | zero => simp [Nat.repeat]
  | succ k ih =>
    rw [pow_succ, ← Nat.div_div_eq_div_mul, ← ih]
    rfl

theorem Holds.bounds {em : ExtendedMantissa} {t : ℚ} (h : Holds em t) :
    em.mantissa ≤ t ∧ t < em.mantissa + 1 := by
  obtain ⟨m, round, sticky⟩ := em
  cases round <;> cases sticky <;> simp only [Holds] at h ⊢ <;> constructor <;> linarith

theorem Holds.abs_roundedMantissa_sub {em : ExtendedMantissa} {t : ℚ} (h : Holds em t) :
    |em.roundedMantissa - t| ≤ 1 / 2 := by
  obtain ⟨m, round, sticky⟩ := em
  have hmod : (m % 2 : ℕ) = (0 : ℚ) ∨ (m % 2 : ℕ) = (1 : ℚ) := by
    exact_mod_cast Nat.mod_two_eq_zero_or_one m
  rw [abs_le]
  cases round <;> cases sticky <;>
    simp only [Holds, ExtendedMantissa.roundedMantissa, ExtendedMantissa.accuracy,
      Accuracy.roundToNearestEven] at h ⊢ <;>
    push_cast <;> constructor <;> grind

/-- Half a unit is rounded to an even number. -/
theorem Holds.even_roundedMantissa {em : ExtendedMantissa} {t : ℚ} (h : Holds em t)
    (htie : |em.roundedMantissa - t| = 1 / 2) : Even em.roundedMantissa := by
  obtain ⟨m, round, sticky⟩ := em
  cases round <;> cases sticky <;>
    simp only [Holds, ExtendedMantissa.roundedMantissa, ExtendedMantissa.accuracy,
      Accuracy.roundToNearestEven] at h htie ⊢
  · rw [h, sub_self, abs_zero] at htie
    norm_num at htie
  · rw [abs_of_neg (by linarith)] at htie
    linarith
  · rw [Nat.even_iff]
    omega
  · push_cast at htie
    rw [abs_of_pos (by linarith)] at htie
    linarith

theorem roundedMantissa_bounds (em : ExtendedMantissa) :
    em.mantissa ≤ em.roundedMantissa ∧ em.roundedMantissa ≤ em.mantissa + 1 := by
  obtain ⟨m, round, sticky⟩ := em
  cases round <;> cases sticky <;>
    simp [ExtendedMantissa.roundedMantissa, ExtendedMantissa.accuracy,
      Accuracy.roundToNearestEven]
  omega

/-! ## The last place -/

/-- The exponent of the last place of a number with this mantissa and this exponent. -/
def lastPlace (m : ℕ) (e : ℤ) : ℤ := max (m.log2 + e - 52) (-1074)

theorem targetExponent_eq (m : ℕ) (e : ℤ) :
    Format.binary64.targetExponent (totalExponent m e) = lastPlace m e := by
  simp only [Format.targetExponent, totalExponent, lastPlace, Format.mantissaBits,
    Format.minExponent]
  norm_num
  omega

theorem canonical_of_lastPlace_eq {m : ℕ} {e : ℤ} (h : lastPlace m e = e) :
    Canonical .binary64 m e := by
  have hbits : Format.binary64.mantissaBits = 53 := rfl
  have hmin : Format.binary64.minExponent = -1074 := rfl
  unfold lastPlace at h
  exact ⟨by omega, by omega, by omega⟩

theorem unpack_pack {sign : Sign} {m : ℕ} {e : ℤ} (hm : 0 < m) (h : lastPlace m e = e)
    (hmax : e ≤ 971) :
    (Float.Model.pack (.finite sign m e hm)).unpack = .finite sign m e hm :=
  unpack_pack_finite hm (canonical_of_lastPlace_eq h) hmax

theorem le_lastPlace_of_full {m : ℕ} {e : ℤ} (h : 2 ^ 52 ≤ m) : e ≤ lastPlace m e := by
  have hlog : 52 ≤ m.log2 := (Nat.le_log2 (by omega)).mpr h
  unfold lastPlace
  omega

theorem lastPlace_shiftLeft {m : ℕ} {e : ℤ} (hm : m ≠ 0) (k : ℕ) :
    lastPlace (m <<< k) (e - k) = lastPlace m e := by
  have hlog : (m <<< k).log2 = m.log2 + k := by
    rw [Nat.log2_eq_iff (by simp [Nat.shiftLeft_eq, hm]), Nat.shiftLeft_eq]
    constructor
    · rw [pow_add]
      exact Nat.mul_le_mul_right _ (Nat.log2_self_le hm)
    · rw [Nat.add_right_comm, pow_add]
      exact Nat.mul_lt_mul_of_pos_right Nat.lt_log2_self (Nat.two_pow_pos k)
  unfold lastPlace
  rw [hlog]
  push_cast
  omega

theorem shiftLeft_mul_zpow (m : ℕ) (e : ℤ) (k : ℕ) :
    ((m <<< k : ℕ) : ℚ) * 2 ^ (e - k) = m * 2 ^ e := by
  rw [Nat.shiftLeft_eq, zpow_sub₀ two_ne_zero, zpow_natCast]
  push_cast
  field_simp

theorem shiftToTargetExponent_eq {m : ℕ} {e : ℤ} (accuracy : Accuracy) (h : e ≤ lastPlace m e) :
    shiftToTargetExponent .binary64 m e accuracy =
      (ExtendedMantissa.ofMantissaAndAccuracy m accuracy >>> (lastPlace m e - e).toNat,
        lastPlace m e) := by
  simp only [shiftToTargetExponent, shiftToExponent, targetExponent_eq]
  rw [Int.toNat_of_nonneg (by omega), add_sub_cancel]

/-- A mantissa that has been shifted to the last place is not too wide, and it is full unless the
exponent is the least one. -/
theorem div_two_pow_lastPlace {m : ℕ} {e : ℤ} (h : e ≤ lastPlace m e) :
    m / 2 ^ (lastPlace m e - e).toNat < 2 ^ 53 ∧
      (2 ^ 52 ≤ m / 2 ^ (lastPlace m e - e).toNat ∨ lastPlace m e = -1074) := by
  obtain ⟨k, hk⟩ := Int.eq_ofNat_of_zero_le (Int.sub_nonneg_of_le h)
  rw [hk, Int.toNat_natCast]
  unfold lastPlace at hk
  constructor
  · rw [Nat.div_lt_iff_lt_mul (Nat.two_pow_pos k), ← pow_add]
    exact Nat.lt_log2_self.trans_le (Nat.pow_le_pow_right (by omega) (by omega))
  · by_cases hleast : lastPlace m e = -1074
    · exact Or.inr hleast
    · left
      unfold lastPlace at hleast
      have hlog : m.log2 = 52 + k := by omega
      have hm : m ≠ 0 := by
        rintro rfl
        rw [Nat.log2_zero] at hlog
        omega
      rw [Nat.le_div_iff_mul_le (Nat.two_pow_pos k), ← pow_add, ← hlog]
      exact Nat.log2_self_le hm

/-! ## Rounding a mantissa -/

def ofMantissa (sign : Sign) (m : ℕ) (e : ℤ) : UnpackedFloat :=
  if h : m = 0 then .zero sign else .finite sign m e (Nat.pos_of_ne_zero h)

theorem hasValue_pack_ofMantissa {sign : Sign} {m : ℕ} {e : ℤ} (h : m = 0 ∨ lastPlace m e = e)
    (hmax : e ≤ 971) :
    HasValue (.ofModel (Float.Model.pack (ofMantissa sign m e))) (signed sign * (m * 2 ^ e)) := by
  unfold ofMantissa
  split
  · rename_i h0
    rw [h0, Nat.cast_zero, zero_mul, mul_zero]
    exact hasValue_zero sign
  · rename_i h0
    rw [HasValue, unpack_pack _ (h.resolve_left h0) hmax, value?]

/-- How many last places a mantissa comes to, rounded. -/
def places (m : ℕ) (e : ℤ) (accuracy : Accuracy) : ℕ :=
  (ExtendedMantissa.ofMantissaAndAccuracy m accuracy >>>
    (lastPlace m e - e).toNat).roundedMantissa

theorem places_bounds {m : ℕ} {e : ℤ} (accuracy : Accuracy) (h : e ≤ lastPlace m e) :
    places m e accuracy ≤ 2 ^ 53 ∧ (2 ^ 52 ≤ places m e accuracy ∨ lastPlace m e = -1074) := by
  obtain ⟨hwidth, hfull⟩ := div_two_pow_lastPlace h
  have hrounded := roundedMantissa_bounds (ExtendedMantissa.ofMantissaAndAccuracy m accuracy >>>
    (lastPlace m e - e).toNat)
  rw [mantissa_shiftRight, mantissa_ofMantissaAndAccuracy] at hrounded
  unfold places
  omega

theorem shiftToTargetExponent_of_le {r : ℕ} {p : ℤ} (h : lastPlace r p ≤ p) :
    shiftToTargetExponent .binary64 r p .exact = (.ofMantissaAndAccuracy r .exact, p) := by
  have hshift : (lastPlace r p - p).toNat = 0 := by omega
  simp only [shiftToTargetExponent, shiftToExponent, targetExponent_eq, hshift, Nat.cast_zero,
    add_zero]
  rfl

theorem lastPlace_le_of_lt {r : ℕ} {p : ℤ} (hr : r < 2 ^ 53) (hp : -1074 ≤ p) :
    lastPlace r p ≤ p := by
  have hlog : r.log2 ≤ 52 := by
    rcases Nat.eq_zero_or_pos r with rfl | hpos
    · rw [Nat.log2_zero]
      omega
    · have hlog := (Nat.log2_lt hpos.ne').mpr hr
      omega
  unfold lastPlace
  omega

theorem lastPlace_two_pow {k : ℕ} {p : ℤ} (h : -1074 ≤ k + p - 52) :
    lastPlace (2 ^ k) p = k + p - 52 := by
  rw [lastPlace, Nat.log2_two_pow]
  omega

/-- A mantissa that rounding has made too wide is a power of two and is shifted once more. -/
theorem roundWithAccuracy_eq (sign : Sign) {m : ℕ} {e : ℤ} (accuracy : Accuracy)
    (h : e ≤ lastPlace m e) :
    roundWithAccuracy .binary64 sign m e accuracy =
      if places m e accuracy = 2 ^ 53 then ofMantissa sign (2 ^ 52) (lastPlace m e + 1)
      else ofMantissa sign (places m e accuracy) (lastPlace m e) := by
  obtain ⟨hr, -⟩ := places_bounds accuracy h
  have hleast : -1074 ≤ lastPlace m e := le_max_right _ _
  simp only [roundWithAccuracy, shiftToTargetExponent_eq accuracy h]
  change ofMantissa sign
    (shiftToTargetExponent .binary64 (places m e accuracy) (lastPlace m e) .exact).1.mantissa
    (shiftToTargetExponent .binary64 (places m e accuracy) (lastPlace m e) .exact).2 = _
  generalize lastPlace m e = p at hleast
  generalize places m e accuracy = r at hr
  split
  · rename_i hwide
    have hplace : lastPlace r p = p + 1 := by
      rw [hwide, lastPlace_two_pow (by omega)]
      omega
    rw [shiftToTargetExponent_eq .exact (by omega), hplace, mantissa_shiftRight,
      mantissa_ofMantissaAndAccuracy, hwide, add_sub_cancel_left]
    norm_num
  · rename_i hwide
    rw [shiftToTargetExponent_of_le (lastPlace_le_of_lt (hr.lt_of_ne hwide) hleast),
      mantissa_ofMantissaAndAccuracy]

theorem hasValue_roundWithAccuracy (sign : Sign) {m : ℕ} {e : ℤ} (accuracy : Accuracy)
    (h : e ≤ lastPlace m e) (hmax : lastPlace m e ≤ 971)
    (hwide : places m e accuracy = 2 ^ 53 → lastPlace m e ≤ 970) :
    HasValue (.ofModel (Float.Model.pack (roundWithAccuracy .binary64 sign m e accuracy)))
      (signed sign * (places m e accuracy * 2 ^ lastPlace m e)) := by
  obtain ⟨hr, hfull⟩ := places_bounds accuracy h
  have hleast : -1074 ≤ lastPlace m e := le_max_right _ _
  rw [roundWithAccuracy_eq sign accuracy h]
  generalize places m e accuracy = r at hr hfull hwide
  generalize lastPlace m e = p at *
  split
  · rename_i hr
    have hp := hwide hr
    have hplace : lastPlace (2 ^ 52) (p + 1) = p + 1 := by
      rw [lastPlace_two_pow (by omega)]
      omega
    have hvalue : (r : ℚ) * 2 ^ p = (2 ^ 52 : ℕ) * 2 ^ (p + 1) := by
      rw [hr, zpow_add_one₀ two_ne_zero]
      push_cast
      ring
    rw [hvalue]
    exact hasValue_pack_ofMantissa (Or.inr hplace) (by omega)
  · rename_i hnarrow
    refine hasValue_pack_ofMantissa ?_ hmax
    rcases Nat.eq_zero_or_pos r with h0 | hpos
    · exact Or.inl h0
    · right
      have hlow : 2 ^ 52 ≤ r → 52 ≤ r.log2 := (Nat.le_log2 hpos.ne').mpr
      have hle := lastPlace_le_of_lt (hr.lt_of_ne hnarrow) hleast
      unfold lastPlace at *
      omega

theorem unpack_pack_infinity (sign : Sign) :
    (Float.Model.pack (.infinity sign)).unpack = .infinity sign := by
  cases sign
  · rfl
  · rfl

/-- An exponent above the largest one makes an infinity. -/
theorem unpack_pack_of_large {sign : Sign} {m : ℕ} {e : ℤ} (hm : m ≠ 0) (he : 972 ≤ e) :
    (Float.Model.pack (ofMantissa sign m e)).unpack = .infinity sign := by
  have hlarge : 2 ^ Format.binary64.exponentBits ≤
      (e + Format.binary64.exponentBias + Format.binary64.mantissaBitsWithoutImplicit).toNat + 1 := by
    have hbits : 2 ^ Format.binary64.exponentBits = 2048 := rfl
    have hbias : Format.binary64.exponentBias = 1023 := rfl
    have hmantissa : Format.binary64.mantissaBitsWithoutImplicit = 52 := rfl
    rw [hbits, hbias, hmantissa]
    omega
  have hpack : Float.Model.pack (ofMantissa sign m e) = Float.Model.pack (.infinity sign) := by
    simp only [Float.Model.pack, ofMantissa, dif_neg hm, pack, if_pos hlarge]
  rw [hpack, unpack_pack_infinity]

theorem infinity_roundWithAccuracy (sign : Sign) {m : ℕ} {e : ℤ} (accuracy : Accuracy)
    (h : e ≤ lastPlace m e)
    (hlarge : 972 ≤ lastPlace m e ∨ 971 ≤ lastPlace m e ∧ places m e accuracy = 2 ^ 53) :
    (Float.Model.pack (roundWithAccuracy .binary64 sign m e accuracy)).unpack = .infinity sign := by
  obtain ⟨-, hfull⟩ := places_bounds accuracy h
  rw [roundWithAccuracy_eq sign accuracy h]
  split
  · exact unpack_pack_of_large (by norm_num) (by omega)
  · exact unpack_pack_of_large (by omega) (by omega)

/-! ## Rounded numbers -/

/-- The last place of `v` is `2 ^ p`, and `w` is a multiple of it that is at most half a place away
from `v`, an even one if it is just half a place away. A number has 53 places, but none of them is
below `2 ^ -1074`. -/
structure RoundedAt (v w : ℚ) (p : ℤ) : Prop where
  multiple : ∃ z : ℤ, w = z * 2 ^ p
  near : |w - v| ≤ 2 ^ (p - 1)
  tie : |w - v| = 2 ^ (p - 1) → ∃ z : ℤ, Even z ∧ w = z * 2 ^ p
  width : |v| < 2 ^ (p + 53)
  least : -1074 ≤ p
  full : 2 ^ (p + 52) ≤ |v| ∨ p = -1074

def Rounded (v w : ℚ) : Prop := ∃ p, RoundedAt v w p

def Rounds (x : Float) (v : ℚ) : Prop := ∃ w, HasValue x w ∧ Rounded v w

section RoundedAt

variable {v w u : ℚ} {p M N : ℤ}

theorem RoundedAt.neg (h : RoundedAt v w p) : RoundedAt (-v) (-w) p := by
  obtain ⟨⟨z, hz⟩, hnear, htie, hwidth, hleast, hfull⟩ := h
  have hsize : |-w - -v| = |w - v| := by rw [neg_sub_neg, abs_sub_comm]
  refine ⟨⟨-z, by rw [hz]; push_cast; ring⟩, by rwa [hsize], fun h => ?_, by rwa [abs_neg], hleast,
    by rwa [abs_neg]⟩
  obtain ⟨i, heven, hi⟩ := htie (hsize ▸ h)
  exact ⟨-i, heven.neg, by rw [hi]; push_cast; ring⟩

theorem RoundedAt.place_le (h : RoundedAt v w p) (hN : -1074 ≤ N) (hlt : |v| < 2 ^ (N + 53)) :
    p ≤ N := by
  rcases h.full with hfull | hleast
  · have hexp := (zpow_lt_zpow_iff_right₀ one_lt_two).mp (hfull.trans_lt hlt)
    omega
  · exact hleast.trans_le hN

theorem RoundedAt.le_place (h : RoundedAt v w p) (hle : 2 ^ (M + 52) ≤ |v|) : M ≤ p := by
  have hexp := (zpow_lt_zpow_iff_right₀ one_lt_two).mp (hle.trans_lt h.width)
  omega

/-- A multiple of the last place that `v` does not exceed by half a place is a bound for `w`. -/
theorem RoundedAt.le (h : RoundedAt v w p) (hu : ∃ z : ℤ, u = z * 2 ^ p)
    (hv : v < u + 2 ^ (p - 1)) : w ≤ u := by
  obtain ⟨i, hi⟩ := h.multiple
  obtain ⟨z, rfl⟩ := hu
  have hpos : (0 : ℚ) < 2 ^ p := by positivity
  have hnear := (abs_le.mp h.near).2
  have hlt : (i : ℚ) * 2 ^ p < (z + 1) * 2 ^ p := by
    rw [zpow_sub_one₀ two_ne_zero] at hv hnear
    linarith
  have hlt : (i : ℚ) < z + 1 := lt_of_mul_lt_mul_right hlt hpos.le
  have hle : i ≤ z := by
    rw [← Int.lt_add_one_iff]
    exact_mod_cast hlt
  rw [hi]
  exact mul_le_mul_of_nonneg_right (by exact_mod_cast hle) hpos.le

/-- With one last place, two numbers cannot pass each other: half a place is rounded to an even
multiple from either side. -/
theorem RoundedAt.mono_of_eq {v' w' : ℚ} (h : RoundedAt v w p) (h' : RoundedAt v' w' p)
    (hle : v ≤ v') : w ≤ w' := by
  by_contra hlt
  rw [not_le] at hlt
  obtain ⟨i, hi⟩ := h.multiple
  obtain ⟨j, hj⟩ := h'.multiple
  have hpos : (0 : ℚ) < 2 ^ p := by positivity
  have hji : (j : ℚ) + 1 ≤ i := by
    rw [hi, hj] at hlt
    have hint : j < i := by exact_mod_cast lt_of_mul_lt_mul_right hlt hpos.le
    exact_mod_cast hint
  have hstep : w' + 2 ^ p ≤ w := by
    rw [hi, hj]
    linarith [mul_le_mul_of_nonneg_right hji hpos.le]
  have hhalf : (2 : ℚ) ^ (p - 1) = 2 ^ p / 2 := zpow_sub_one₀ two_ne_zero p
  have hup := (abs_le.mp h.near).2
  have hdown := (abs_le.mp h'.near).1
  rw [hhalf] at hup hdown
  obtain ⟨i', hieven, hi'⟩ := h.tie (by rw [hhalf, abs_of_nonneg (by linarith)]; linarith)
  obtain ⟨j', hjeven, hj'⟩ := h'.tie (by rw [hhalf, abs_of_nonpos (by linarith)]; linarith)
  have heq : ((i' : ℤ) : ℚ) * 2 ^ p = ((j' + 1 : ℤ) : ℚ) * 2 ^ p := by
    push_cast
    linarith
  have hnext : i' = j' + 1 := by exact_mod_cast mul_right_cancel₀ hpos.ne' heq
  rw [hnext] at hieven
  exact Int.not_even_iff_odd.mpr hjeven.add_one hieven

/-- A number with a higher last place is beyond what the other one can be rounded to. -/
theorem RoundedAt.mono_of_lt {v' w' : ℚ} {p' : ℤ} (h : RoundedAt v w p) (h' : RoundedAt v' w' p')
    (hp : p < p') (hle : v ≤ v') : w ≤ w' := by
  have hleast := h.least
  have hfull := h'.full.resolve_right (by omega)
  have hpow : (2 : ℚ) ^ (p + 53) ≤ 2 ^ (p' + 52) := zpow_le_zpow_right₀ one_le_two (by omega)
  have hlow := (abs_lt.mp h.width).1
  have hv' : 2 ^ (p' + 52) ≤ v' := by
    rcases le_abs'.mp hfull with hneg | hpos
    · linarith
    · exact hpos
  have hplace : (0 : ℚ) < 2 ^ (p - 1) := by positivity
  have hplace' : (0 : ℚ) < 2 ^ (p' - 1) := by positivity
  have hw : w ≤ 2 ^ (p + 53) := by
    refine h.le ⟨2 ^ 53, ?_⟩ ?_
    · rw [add_comm, zpow_add₀ two_ne_zero]
      rfl
    · linarith [(abs_lt.mp h.width).2]
  have hw' : -w' ≤ -2 ^ (p' + 52) := by
    refine h'.neg.le ⟨-2 ^ 52, ?_⟩ (by linarith)
    rw [add_comm, zpow_add₀ two_ne_zero]
    push_cast
    ring
  linarith

theorem RoundedAt.mono {v' w' : ℚ} {p' : ℤ} (h : RoundedAt v w p) (h' : RoundedAt v' w' p')
    (hle : v ≤ v') : w ≤ w' := by
  rcases lt_trichotomy p p' with hp | rfl | hp
  · exact h.mono_of_lt h' hp hle
  · exact h.mono_of_eq h' hle
  · exact neg_le_neg_iff.mp (h'.neg.mono_of_lt h.neg hp (neg_le_neg hle))

end RoundedAt

theorem exists_multiple_of_le {u : ℚ} {p N : ℤ} (h : p ≤ N) (hu : ∃ z : ℤ, u = z * 2 ^ N) :
    ∃ z : ℤ, u = z * 2 ^ p := by
  obtain ⟨z, rfl⟩ := hu
  obtain ⟨k, hk⟩ := Int.eq_ofNat_of_zero_le (Int.sub_nonneg_of_le h)
  obtain rfl : N = k + p := by omega
  refine ⟨z * 2 ^ k, ?_⟩
  rw [zpow_add₀ two_ne_zero, zpow_natCast]
  push_cast
  ring

namespace Rounded

variable {v w u : ℚ} {M N : ℤ}

theorem neg (h : Rounded v w) : Rounded (-v) (-w) := h.imp fun _ hp => hp.neg

theorem mono {v' w' : ℚ} (h : Rounded v w) (h' : Rounded v' w') (hle : v ≤ v') : w ≤ w' := by
  obtain ⟨_, h⟩ := h
  obtain ⟨_, h'⟩ := h'
  exact h.mono h' hle

theorem unique {w' : ℚ} (h : Rounded v w) (h' : Rounded v w') : w = w' :=
  le_antisymm (h.mono h' le_rfl) (h'.mono h le_rfl)

theorem abs_sub_le (h : Rounded v w) (hN : -1074 ≤ N) (hlt : |v| < 2 ^ (N + 53)) :
    |w - v| ≤ 2 ^ (N - 1) := by
  obtain ⟨p, h⟩ := h
  have hp := h.place_le hN hlt
  exact h.near.trans (zpow_le_zpow_right₀ one_le_two (by omega))

/-- `2 ^ M` and `2 ^ N` are bounds for the last place. -/
theorem le_of_lt (h : Rounded v w) (hM : 2 ^ (M + 52) ≤ |v|) (hN : -1074 ≤ N)
    (hlt : |v| < 2 ^ (N + 53)) (hu : ∃ z : ℤ, u = z * 2 ^ N) (hv : v < u + 2 ^ (M - 1)) :
    w ≤ u := by
  obtain ⟨p, h⟩ := h
  have hMp := h.le_place hM
  have hpow : (2 : ℚ) ^ (M - 1) ≤ 2 ^ (p - 1) := zpow_le_zpow_right₀ one_le_two (by omega)
  exact h.le (exists_multiple_of_le (h.place_le hN hlt) hu) (by linarith)

theorem ge_of_gt (h : Rounded v w) (hM : 2 ^ (M + 52) ≤ |v|) (hN : -1074 ≤ N)
    (hlt : |v| < 2 ^ (N + 53)) (hu : ∃ z : ℤ, u = z * 2 ^ N) (hv : u - 2 ^ (M - 1) < v) :
    u ≤ w := by
  obtain ⟨z, rfl⟩ := hu
  refine neg_le_neg_iff.mp (h.neg.le_of_lt (M := M) (N := N) ?_ hN ?_ ⟨-z, ?_⟩ (by linarith))
  · rwa [abs_neg]
  · rwa [abs_neg]
  · push_cast
    ring

theorem le (h : Rounded v w) (hN : -1074 ≤ N) (hlt : |v| < 2 ^ (N + 53))
    (hu : ∃ z : ℤ, u = z * 2 ^ N) (hv : v ≤ u) : w ≤ u := by
  obtain ⟨p, h⟩ := h
  exact h.le (exists_multiple_of_le (h.place_le hN hlt) hu)
    (hv.trans_lt (lt_add_of_pos_right u (by positivity)))

theorem ge (h : Rounded v w) (hN : -1074 ≤ N) (hlt : |v| < 2 ^ (N + 53))
    (hu : ∃ z : ℤ, u = z * 2 ^ N) (hv : u ≤ v) : u ≤ w := by
  obtain ⟨z, rfl⟩ := hu
  refine neg_le_neg_iff.mp (h.neg.le hN ?_ ⟨-z, ?_⟩ (neg_le_neg hv))
  · rwa [abs_neg]
  · push_cast
    ring

theorem eq (h : Rounded v w) (hN : -1074 ≤ N) (hlt : |v| < 2 ^ (N + 53))
    (hv : ∃ z : ℤ, v = z * 2 ^ N) : w = v :=
  le_antisymm (h.le hN hlt hv le_rfl) (h.ge hN hlt hv le_rfl)

end Rounded

/-- What has been taken apart is as good as rounded. -/
theorem full_or_least {x : Float} {s : Sign} {m : ℕ} {e : ℤ} {hm : 0 < m}
    (h : x.toModel.unpack = .finite s m e hm) :
    m < 2 ^ 53 ∧ -1074 ≤ e ∧ (2 ^ 52 ≤ m ∨ e = -1074) := by
  obtain ⟨⟨hwidth, hleast, hfull⟩, -⟩ := canonical_of_unpack hm (by decide) h
  refine ⟨(Nat.log2_lt hm.ne').mp hwidth, hleast, hfull.imp (fun hlog => ?_) id⟩
  rw [← Nat.le_log2 hm.ne', ← Nat.succ_le_succ_iff]
  exact hlog.ge

theorem abs_signed_mul (sign : Sign) (q : ℚ) : |signed sign * q| = |q| := by
  cases sign <;> simp [signed]

theorem signed_apply (s : Sign) (n : ℤ) : ((s.apply n : ℤ) : ℚ) = signed s * n := by
  cases s <;> simp [signed, Sign.apply]

/-- A mantissa `n` of the right width, and a whole number `r` near to what it stands for. -/
theorem roundedAt_of_mantissa (sign : Sign) {q : ℚ} {n r : ℕ} {p : ℤ} (hle : n ≤ q)
    (hlt : q < n + 1) (hnear : |r - q| ≤ 1 / 2) (htie : |r - q| = 1 / 2 → Even r)
    (hwidth : n < 2 ^ 53) (hleast : -1074 ≤ p) (hfull : 2 ^ 52 ≤ n ∨ p = -1074) :
    RoundedAt (signed sign * (q * 2 ^ p)) (signed sign * (r * 2 ^ p)) p := by
  have hq : 0 ≤ q := (Nat.cast_nonneg n).trans hle
  have hpos : (0 : ℚ) < 2 ^ p := by positivity
  have habs : |signed sign * (q * 2 ^ p)| = q * 2 ^ p := by
    rw [abs_signed_mul, abs_of_nonneg (by positivity)]
  have hdistance : |signed sign * (r * 2 ^ p) - signed sign * (q * 2 ^ p)| = |(r : ℚ) - q| * 2 ^ p := by
    rw [← mul_sub, abs_signed_mul, ← sub_mul, abs_mul, abs_of_pos hpos]
  have hhalf : (2 : ℚ) ^ (p - 1) = 1 / 2 * 2 ^ p := by
    rw [zpow_sub_one₀ two_ne_zero]
    ring
  have hmultiple : signed sign * (r * 2 ^ p) = ((sign.apply r : ℤ) : ℚ) * 2 ^ p := by
    rw [signed_apply]
    push_cast
    ring
  refine ⟨⟨sign.apply r, hmultiple⟩, ?_, fun h => ⟨sign.apply r, ?_, hmultiple⟩, ?_, hleast,
    hfull.imp (fun hn => ?_) id⟩
  · rw [hdistance, hhalf]
    exact mul_le_mul_of_nonneg_right hnear hpos.le
  · rw [hdistance, hhalf] at h
    have heven : Even (r : ℤ) := by exact_mod_cast htie (mul_right_cancel₀ hpos.ne' h)
    cases sign
    · exact heven.neg
    · exact heven
  · have hn : (n : ℚ) + 1 ≤ 2 ^ 53 := by exact_mod_cast hwidth
    rw [habs, add_comm, zpow_add₀ two_ne_zero]
    exact mul_lt_mul_of_pos_right (hlt.trans_le hn) (by positivity)
  · have hn : (2 ^ 52 : ℚ) ≤ n := by exact_mod_cast hn
    rw [habs, add_comm, zpow_add₀ two_ne_zero]
    exact mul_le_mul_of_nonneg_right (hn.trans hle) (by positivity)

theorem HasValue.rounds {x : Float} {v : ℚ} (h : HasValue x v) : Rounds x v := by
  obtain ⟨s, -, rfl⟩ | ⟨s, m, e, hm, hu, rfl⟩ := value?_eq_some h
  · refine ⟨0, h, -1074, ⟨0, by simp⟩, by simp, fun _ => ⟨0, by simp⟩, by simp, le_rfl, Or.inr rfl⟩
  · obtain ⟨hwidth, hleast, hfull⟩ := full_or_least hu
    exact ⟨_, h, e,
      roundedAt_of_mantissa s le_rfl (lt_add_one _) (by simp) (by simp) hwidth hleast hfull⟩

theorem HasValue.unique {x : Float} {v w : ℚ} (hv : HasValue x v) (hw : HasValue x w) : v = w := by
  rw [HasValue, hv] at hw
  exact Option.some.inj hw

theorem HasValue.rounded {x : Float} {v : ℚ} (h : HasValue x v) : Rounded v v := by
  obtain ⟨w, hw, hrounded⟩ := h.rounds
  obtain rfl := h.unique hw
  exact hrounded

/-- All numbers are multiples of the smallest one. -/
theorem HasValue.exists_multiple {x : Float} {v : ℚ} (h : HasValue x v) :
    ∃ z : ℤ, v = z * 2 ^ (-1074 : ℤ) := by
  obtain ⟨p, hp⟩ := h.rounded
  exact exists_multiple_of_le hp.least hp.multiple

theorem Rounds.hasValue {x : Float} {v : ℚ} {N : ℤ} (h : Rounds x v) (hN : -1074 ≤ N)
    (hlt : |v| < 2 ^ (N + 53)) (hv : ∃ z : ℤ, v = z * 2 ^ N) : HasValue x v := by
  obtain ⟨w, hw, hrounded⟩ := h
  rwa [hrounded.eq hN hlt hv] at hw

/-! ## Overflow -/

/-- Half a place above the largest number there is. -/
def threshold : ℚ := (2 ^ 54 - 1) * 2 ^ (970 : ℤ)

theorem zpow_lt_threshold : (2 : ℚ) ^ (1023 : ℤ) < threshold := by
  have hsplit : (2 : ℚ) ^ (1023 : ℤ) = 2 ^ (53 : ℤ) * 2 ^ (970 : ℤ) := by
    rw [← zpow_add₀ two_ne_zero]
    rfl
  rw [hsplit, threshold]
  exact mul_lt_mul_of_pos_right (by norm_num) (by positivity)

/-- What is to come of an operation with the exact result `v`: the nearest number, or the infinity on
the side of `v` where no number is near enough. -/
def Nearest (x : Float) (v : ℚ) : Prop :=
  |v| < threshold ∧ Rounds x v ∨
    threshold ≤ |v| ∧ ∃ s, x.toModel.unpack = .infinity s ∧ v = signed s * |v|

namespace Nearest

variable {x : Float} {v : ℚ}

theorem rounds (h : Nearest x v) (hv : |v| < threshold) : Rounds x v := by
  rcases h with ⟨-, h⟩ | ⟨hle, -⟩
  · exact h
  · exact absurd hv hle.not_gt

/-- What comes out as a number has not been too large. -/
theorem rounds_of_hasValue {w : ℚ} (h : Nearest x v) (hw : HasValue x w) : Rounds x v := by
  rcases h with ⟨-, h⟩ | ⟨-, s, hinfinity, -⟩
  · exact h
  · rw [HasValue, hinfinity] at hw
    cases hw

/-- What has room is exact. -/
theorem hasValue {N : ℤ} (h : Nearest x v) (hN : -1074 ≤ N) (hmax : N ≤ 970)
    (hlt : |v| < 2 ^ (N + 53)) (hv : ∃ z : ℤ, v = z * 2 ^ N) : HasValue x v := by
  have hpow : (2 : ℚ) ^ (N + 53) ≤ 2 ^ (1023 : ℤ) := zpow_le_zpow_right₀ one_le_two (by omega)
  exact (h.rounds (hlt.trans_le (hpow.trans zpow_lt_threshold.le))).hasValue hN hlt hv

theorem infinite (h : Nearest x v) (hv : threshold ≤ |v|) :
    ∃ s, x.toModel.unpack = .infinity s ∧ v = signed s * |v| := by
  rcases h with ⟨hlt, -⟩ | ⟨-, h⟩
  · exact absurd hv hlt.not_ge
  · exact h

end Nearest

theorem threshold_eq : threshold = (2 ^ 53 - 1 / 2) * 2 ^ (971 : ℤ) := by
  have hsplit : (2 : ℚ) ^ (971 : ℤ) = 2 * 2 ^ (970 : ℤ) := by
    rw [← zpow_one_add₀ two_ne_zero]
    rfl
  rw [threshold, hsplit]
  ring

section Threshold

variable {q : ℚ} {n r : ℕ} {p : ℤ}

theorem threshold_le_of_large (hfull : 2 ^ 52 ≤ n) (hle : n ≤ q) (hp : 972 ≤ p) :
    threshold ≤ q * 2 ^ p := by
  have hq : (2 : ℚ) ^ 52 ≤ q := le_trans (by exact_mod_cast hfull) hle
  have hsplit : (2 : ℚ) ^ (972 : ℤ) = 2 * 2 ^ (971 : ℤ) := by
    rw [← zpow_one_add₀ two_ne_zero]
    rfl
  calc threshold ≤ 2 ^ 53 * 2 ^ (971 : ℤ) := by
        rw [threshold_eq]
        exact mul_le_mul_of_nonneg_right (by norm_num) (by positivity)
    _ = 2 ^ 52 * 2 ^ (972 : ℤ) := by
        rw [hsplit]
        ring
    _ ≤ q * 2 ^ p := mul_le_mul hq (zpow_le_zpow_right₀ one_le_two hp) (by positivity)
        (le_trans (by positivity) hq)

theorem threshold_le_of_wide (hnear : |r - q| ≤ 1 / 2) (hr : r = 2 ^ 53) (hp : 971 ≤ p) :
    threshold ≤ q * 2 ^ p := by
  have hq : (2 : ℚ) ^ 53 - 1 / 2 ≤ q := by
    rw [hr, abs_le] at hnear
    push_cast at hnear
    linarith [hnear.2]
  rw [threshold_eq]
  exact mul_le_mul hq (zpow_le_zpow_right₀ one_le_two hp) (by positivity)
    (le_trans (by norm_num) hq)

theorem lt_threshold_of_le (hlt : q < 2 ^ 53) (hp : p ≤ 970) : q * 2 ^ p < threshold := by
  have hpos : (0 : ℚ) < 2 ^ p := by positivity
  calc q * 2 ^ p < 2 ^ 53 * 2 ^ p := mul_lt_mul_of_pos_right hlt hpos
    _ ≤ 2 ^ 53 * 2 ^ (970 : ℤ) :=
        mul_le_mul_of_nonneg_left (zpow_le_zpow_right₀ one_le_two hp) (by positivity)
    _ ≤ threshold := by
        rw [threshold]
        exact mul_le_mul_of_nonneg_right (by norm_num) (by positivity)

/-- The largest mantissa is odd, so that half a place above it is rounded up. -/
theorem lt_threshold_of_narrow (hnear : |r - q| ≤ 1 / 2) (htie : |r - q| = 1 / 2 → Even r)
    (hr : r < 2 ^ 53) (hp : p ≤ 971) : q * 2 ^ p < threshold := by
  have hrle : (r : ℚ) ≤ 2 ^ 53 - 1 := by
    have hle : r + 1 ≤ 2 ^ 53 := hr
    have hcast : (r : ℚ) + 1 ≤ 2 ^ 53 := by exact_mod_cast hle
    linarith
  have hq : q < 2 ^ 53 - 1 / 2 := by
    by_contra hge
    rw [not_lt] at hge
    have hlow := (abs_le.mp hnear).1
    have hexact : (r : ℚ) = 2 ^ 53 - 1 := by linarith
    have hodd : r = 2 ^ 53 - 1 := by
      have hcast : ((r + 1 : ℕ) : ℚ) = (2 ^ 53 : ℕ) := by
        push_cast
        linarith
      have hnat : r + 1 = 2 ^ 53 := by exact_mod_cast hcast
      omega
    have heven := htie (by rw [abs_of_nonpos (by linarith)]; linarith)
    rw [hodd] at heven
    exact absurd heven (by decide)
  have hpos : (0 : ℚ) < 2 ^ p := by positivity
  calc q * 2 ^ p < (2 ^ 53 - 1 / 2) * 2 ^ p := mul_lt_mul_of_pos_right hq hpos
    _ ≤ (2 ^ 53 - 1 / 2) * 2 ^ (971 : ℤ) :=
        mul_le_mul_of_nonneg_left (zpow_le_zpow_right₀ one_le_two hp) (by norm_num)
    _ = threshold := threshold_eq.symm

end Threshold

/-- The largest number there is. -/
def largest : ℚ := (2 ^ 53 - 1) * 2 ^ (971 : ℤ)

theorem largest_add_half : largest + 2 ^ (970 : ℤ) = threshold := by
  have hhalf : (2 : ℚ) ^ (970 : ℤ) = 2 ^ (971 : ℤ) / 2 := zpow_sub_one₀ two_ne_zero 971
  rw [largest, threshold_eq, hhalf]
  ring

theorem largest_lt_threshold : largest < threshold := by
  rw [← largest_add_half]
  exact lt_add_of_pos_right _ (by positivity)

theorem HasValue.abs_le_largest {x : Float} {v : ℚ} (h : HasValue x v) : |v| ≤ largest := by
  obtain ⟨s, -, rfl⟩ | ⟨s, m, e, hm, hu, rfl⟩ := value?_eq_some h
  · rw [abs_zero, largest]
    exact mul_nonneg (by norm_num) (by positivity)
  · obtain ⟨hwidth, -, -⟩ := full_or_least hu
    have hmax : e ≤ 971 := (canonical_of_unpack hm (by decide) hu).2
    have hcast : (m : ℚ) + 1 ≤ 2 ^ 53 := by exact_mod_cast hwidth
    rw [abs_signed_mul, abs_of_nonneg (by positivity)]
    exact mul_le_mul (by linarith) (zpow_le_zpow_right₀ one_le_two hmax) (by positivity)
      (by norm_num)

theorem HasValue.abs_lt_threshold {x : Float} {v : ℚ} (h : HasValue x v) : |v| < threshold :=
  h.abs_le_largest.trans_lt largest_lt_threshold

/-- What is below the threshold is rounded to something below it. -/
theorem Rounded.lt_threshold {v w : ℚ} (h : Rounded v w) (hv : |v| < threshold) : w < threshold := by
  obtain ⟨p, h⟩ := h
  have hp : p ≤ 971 := by
    refine h.place_le (by omega) (hv.trans_le ?_)
    rw [threshold_eq, add_comm, zpow_add₀ two_ne_zero]
    exact mul_le_mul_of_nonneg_right (by norm_num) (by positivity)
  rcases hp.lt_or_eq with hlt | rfl
  · have hpow : (2 : ℚ) ^ (p + 53) ≤ 2 ^ (1023 : ℤ) := zpow_le_zpow_right₀ one_le_two (by omega)
    refine (h.le ⟨2 ^ 53, ?_⟩ ?_).trans_lt (hpow.trans_lt zpow_lt_threshold)
    · rw [add_comm, zpow_add₀ two_ne_zero]
      rfl
    · linarith [(abs_lt.mp h.width).2, (by positivity : (0 : ℚ) < 2 ^ (p - 1))]
  · refine (h.le ⟨2 ^ 53 - 1, ?_⟩ ?_).trans_lt largest_lt_threshold
    · rw [largest, Int.cast_sub, Int.cast_pow, Int.cast_ofNat, Int.cast_one]
    · exact (le_abs_self v).trans_lt (hv.trans_eq largest_add_half.symm)

theorem HasValue.nearest {x : Float} {v : ℚ} (h : HasValue x v) : Nearest x v :=
  .inl ⟨h.abs_lt_threshold, h.rounds⟩

/-- The shift leaves the number of last places, and it is rounded to a whole one. -/
theorem nearest_roundWithAccuracy {sign : Sign} {m : ℕ} {e : ℤ} {accuracy : Accuracy} {t : ℚ}
    (h : Holds (ExtendedMantissa.ofMantissaAndAccuracy m accuracy) t) (he : e ≤ lastPlace m e) :
    Nearest (.ofModel (Float.Model.pack (roundWithAccuracy .binary64 sign m e accuracy)))
      (signed sign * (t * 2 ^ e)) := by
  obtain ⟨hwidth, hfull⟩ := div_two_pow_lastPlace he
  have hleast : -1074 ≤ lastPlace m e := le_max_right _ _
  have hshift := h.shiftRight (lastPlace m e - e).toNat
  have hbounds := hshift.bounds
  rw [mantissa_shiftRight, mantissa_ofMantissaAndAccuracy] at hbounds
  have hscale : t * 2 ^ e = t / 2 ^ (lastPlace m e - e).toNat * 2 ^ lastPlace m e := by
    rw [← zpow_natCast, Int.toNat_of_nonneg (by omega), div_mul_eq_mul_div,
      eq_div_iff (by positivity), mul_assoc, ← zpow_add₀ two_ne_zero, add_sub_cancel]
  rw [hscale]
  generalize t / 2 ^ (lastPlace m e - e).toNat = q at hshift hbounds
  have hnear : |(places m e accuracy : ℚ) - q| ≤ 1 / 2 := hshift.abs_roundedMantissa_sub
  have htie : |(places m e accuracy : ℚ) - q| = 1 / 2 → Even (places m e accuracy) :=
    hshift.even_roundedMantissa
  have hq : 0 ≤ q := (Nat.cast_nonneg _).trans hbounds.1
  have habs : |signed sign * (q * 2 ^ lastPlace m e)| = q * 2 ^ lastPlace m e := by
    rw [abs_signed_mul, abs_of_nonneg (by positivity)]
  by_cases hlarge : 972 ≤ lastPlace m e ∨ 971 ≤ lastPlace m e ∧ places m e accuracy = 2 ^ 53
  · refine .inr ⟨?_, sign, infinity_roundWithAccuracy sign accuracy he hlarge, by rw [habs]⟩
    rw [habs]
    rcases hlarge with hp | ⟨hp, hr⟩
    · exact threshold_le_of_large (hfull.resolve_right (by omega)) hbounds.1 hp
    · exact threshold_le_of_wide hnear hr hp
  · obtain ⟨hp, hr⟩ := not_or.mp hlarge
    have hle := (places_bounds accuracy he).1
    refine .inl ⟨?_, _, hasValue_roundWithAccuracy sign accuracy he (by omega) (by omega), _,
      roundedAt_of_mantissa sign hbounds.1 hbounds.2 hnear htie hwidth hleast hfull⟩
    rw [habs]
    by_cases hwide : places m e accuracy = 2 ^ 53
    · have hlt : q < 2 ^ 53 := hbounds.2.trans_le (by exact_mod_cast hwidth)
      exact lt_threshold_of_le hlt (by omega)
    · exact lt_threshold_of_narrow hnear htie (hle.lt_of_ne hwide) (by omega)

end Tabletop.Decimal
