import Mathlib
import Tabletop.Decimal.Binary

/-!
# The bits of a floating point number

* `Decimal.Canonical`: the mantissa is full, unless the exponent is the least one.
* `Decimal.unpack_pack_finite`, `Decimal.canonical_of_unpack`: the canonical numbers with exponents
  that are not too large are those that can be packed into bits and be taken apart again.
* `Decimal.HasValue` is the rational number that a floating point number stands for.
  `Decimal.map_value_ofFloat?`: `Binary.ofFloat?` has the same one.
-/

namespace Tabletop.Decimal

open Float.Model (UnpackedFloat Format)
open Float.Model.UnpackedFloat

/-! ## Components -/

section Components

variable {S : Format} {sign : Sign} {exponent : BitVec S.exponentBits}
  {mantissa : BitVec S.mantissaBitsWithoutImplicit}

theorem toNat_one_append {k : ℕ} (b : BitVec k) : (1#1 ++ b).toNat = 2 ^ k + b.toNat := by
  rw [BitVec.toNat_append, ← Nat.shiftLeft_add_eq_or_of_lt b.isLt, Nat.shiftLeft_eq]
  simp

theorem ofNat_ne_neg_one {k n : ℕ} (hn : n + 1 < 2 ^ k) : BitVec.ofNat k n ≠ -1#k := by
  intro h
  have hnat := congrArg BitVec.toNat h
  rw [BitVec.toNat_ofNat, BitVec.neg_one_eq_allOnes, BitVec.toNat_allOnes,
    Nat.mod_eq_of_lt (by omega)] at hnat
  omega

theorem ofNat_ne_zero {k n : ℕ} (hpos : 0 < n) (hn : n < 2 ^ k) : BitVec.ofNat k n ≠ 0#k := by
  intro h
  have hnat := congrArg BitVec.toNat h
  rw [BitVec.toNat_ofNat, Nat.mod_eq_of_lt hn, BitVec.toNat_zero] at hnat
  omega

theorem zero_ne_neg_one (S : Format) : 0#S.exponentBits ≠ -1#_ := by
  have hbits : 0 + 1 < 2 ^ S.exponentBits := Nat.one_lt_two_pow S.he.ne'
  exact ofNat_ne_neg_one hbits

theorem two_mul_exponentBias (S : Format) : 2 * (S.exponentBias + 1) = 2 ^ S.exponentBits := by
  have hpos := Nat.two_pow_pos (S.exponentBits - 1)
  have hsucc : 2 ^ S.exponentBits = 2 ^ (S.exponentBits - 1) * 2 := by
    rw [← pow_succ, Nat.sub_add_cancel S.he]
  rw [hsucc, Format.exponentBias]
  omega

theorem minExponent_eq (S : Format) :
    S.minExponent = 1 - S.exponentBias - S.mantissaBitsWithoutImplicit := by
  have hpos := Nat.one_le_two_pow (n := S.exponentBits - 1)
  rw [Format.minExponent, Format.exponentBias, Format.mantissaBits, Nat.cast_sub hpos]
  push_cast
  ring

theorem unpack_packComponents_of_ne (h : exponent ≠ -1#_) (h0 : exponent ≠ 0#_) :
    unpack S (packComponents S sign exponent mantissa) =
      .finite sign (1#1 ++ mantissa).toNat
        (exponent.toNat - (S.exponentBias + S.mantissaBitsWithoutImplicit)) (by simp) := by
  simp only [unpack, unpackExponent_packComponents, unpackMantissa_packComponents,
    unpackSign_packComponents, Sign.ofBitVec_toBitVec, if_neg h, if_neg h0]

theorem unpack_packComponents_zero (h : mantissa ≠ 0#_) :
    unpack S (packComponents S sign 0#_ mantissa) =
      .finite sign mantissa.toNat S.minExponent
        (Nat.pos_of_ne_zero fun h' => h (BitVec.eq_of_toNat_eq h')) := by
  have hexponent : ((0#S.exponentBits).toNat : ℤ) -
      (S.exponentBias + S.mantissaBitsWithoutImplicit) + 1 = S.minExponent := by
    rw [minExponent_eq, BitVec.toNat_zero]
    push_cast
    ring
  simp only [unpack, unpackExponent_packComponents, unpackMantissa_packComponents,
    unpackSign_packComponents, Sign.ofBitVec_toBitVec, if_neg (zero_ne_neg_one S), dif_neg h, hexponent,
    if_true]

end Components

/-! ## Canonical numbers -/

/-- The mantissa has its full width. It may be shorter if the exponent is the least one. -/
structure Canonical (S : Format) (m : ℕ) (e : ℤ) : Prop where
  width : m.log2 < S.mantissaBits
  least : S.minExponent ≤ e
  full : m.log2 + 1 = S.mantissaBits ∨ e = S.minExponent

variable {S : Format} {sign : Sign} {m : ℕ} {e : ℤ} (hm : 0 < m)

include hm in
theorem mod_of_full (hlog : m.log2 + 1 = S.mantissaBits) :
    2 ^ S.mantissaBitsWithoutImplicit + m % 2 ^ S.mantissaBitsWithoutImplicit = m := by
  have hlog : m.log2 = S.mantissaBitsWithoutImplicit := by
    rw [Format.mantissaBits] at hlog
    omega
  have hlow := Nat.log2_self_le hm.ne'
  have hhigh := Nat.lt_log2_self (n := m)
  rw [hlog] at hlow hhigh
  rw [pow_succ] at hhigh
  rw [Nat.mod_eq_sub_mod hlow, Nat.mod_eq_of_lt (by omega)]
  omega

theorem unpack_pack_finite (h : Canonical S m e)
    (hmax : e ≤ (S.exponentBias : ℤ) - S.mantissaBitsWithoutImplicit) :
    unpack S (pack S (.finite sign m e hm)) = .finite sign m e hm := by
  obtain ⟨hwidth, hleast, hfull⟩ := h
  rw [minExponent_eq] at hleast
  have hbias := two_mul_exponentBias S
  obtain ⟨biased, hbiased⟩ :=
    Int.eq_ofNat_of_zero_le (a := e + S.exponentBias + S.mantissaBitsWithoutImplicit) (by omega)
  have hlt : biased + 1 < 2 ^ S.exponentBits := by omega
  simp only [pack, hbiased, Int.toNat_natCast, if_neg hlt.not_ge]
  by_cases hlog : m.log2 + 1 = S.mantissaBits
  · rw [if_pos hlog, unpack_packComponents_of_ne (ofNat_ne_neg_one hlt)
      (ofNat_ne_zero (by omega) (by omega))]
    congr 1
    · rw [toNat_one_append, BitVec.toNat_ofNat, mod_of_full hm hlog]
    · rw [BitVec.toNat_ofNat, Nat.mod_eq_of_lt (by omega)]
      omega
  · have hmin : e = S.minExponent := hfull.resolve_left hlog
    have hmlt : m < 2 ^ S.mantissaBitsWithoutImplicit := by
      rw [← Nat.log2_lt hm.ne']
      rw [Format.mantissaBits] at hwidth hlog
      omega
    rw [if_neg hlog, unpack_packComponents_zero (ofNat_ne_zero hm hmlt)]
    congr 1
    · rw [BitVec.toNat_ofNat, Nat.mod_eq_of_lt hmlt]
    · exact hmin.symm

theorem canonical_of_unpack {b : BitVec S.numBits} (hS : 0 < S.exponentBias)
    (h : unpack S b = .finite sign m e hm) :
    Canonical S m e ∧ e ≤ (S.exponentBias : ℤ) - S.mantissaBitsWithoutImplicit := by
  have hbias := two_mul_exponentBias S
  have hexponent := (unpackExponent b).isLt
  have hmantissa := (unpackMantissa b).isLt
  have hmin := minExponent_eq S
  simp only [unpack] at h
  split at h
  · split at h <;> cases h
  · rename_i hspecial
    have hspecial : (unpackExponent b).toNat ≠ 2 ^ S.exponentBits - 1 := by
      intro heq
      rw [← BitVec.toNat_allOnes, BitVec.toNat_inj, ← BitVec.neg_one_eq_allOnes] at heq
      exact hspecial heq
    split at h
    · rename_i hzero
      split at h
      · cases h
      · injection h with hsign hm' he
        subst hm' he
        rw [hzero, BitVec.toNat_zero] at *
        refine ⟨⟨?_, by omega, Or.inr (by omega)⟩, by omega⟩
        rw [Nat.log2_lt hm.ne', Format.mantissaBits, pow_add, pow_one]
        omega
    · rename_i hzero
      injection h with hsign hm' he
      subst hm' he
      have hzero : (unpackExponent b).toNat ≠ 0 := fun h0 => hzero (BitVec.eq_of_toNat_eq h0)
      have hlog : (1#1 ++ unpackMantissa b).toNat.log2 = S.mantissaBitsWithoutImplicit := by
        rw [toNat_one_append, Nat.log2_eq_iff (by omega), pow_succ]
        omega
      exact ⟨⟨by rw [hlog, Format.mantissaBits]; omega, by omega,
        Or.inl (by rw [hlog, Format.mantissaBits]; omega)⟩, by omega⟩

/-! ## Values -/

def signed : Sign → ℚ
  | .positive => 1
  | .negative => -1

/-- The number that a mantissa with its exponent and its sign stands for. -/
def value? : UnpackedFloat → Option ℚ
  | .zero _ => some 0
  | .finite sign m e _ => some (signed sign * (m * 2 ^ e))
  | .infinity _ | .notANumber => none

def HasValue (x : Float) (v : ℚ) : Prop := value? x.toModel.unpack = some v

theorem value?_eq_some {u : UnpackedFloat} {v : ℚ} (h : value? u = some v) :
    (∃ s, u = .zero s ∧ v = 0) ∨
      ∃ s m e hm, u = .finite s m e hm ∧ v = signed s * (m * 2 ^ e) := by
  cases u with
  | zero s => exact Or.inl ⟨s, rfl, (Option.some.inj h).symm⟩
  | finite s m e hm => exact Or.inr ⟨s, m, e, hm, rfl, (Option.some.inj h).symm⟩
  | infinity s => cases h
  | notANumber => cases h

theorem hasValue_zero (sign : Sign) : HasValue (.ofModel (Float.Model.pack (.zero sign))) 0 := by
  change value? (unpack .binary64 (packedZero .binary64 sign)) = _
  rw [unpack_packedZero, value?]

/-- What has been taken apart can be packed again with either sign. -/
theorem hasValue_pack_of_unpack {x : Float} {s₀ : Sign} {m : ℕ} {e : ℤ} {hm : 0 < m}
    (h : x.toModel.unpack = .finite s₀ m e hm) (s : Sign) :
    HasValue (.ofModel (Float.Model.pack (.finite s m e hm))) (signed s * (m * 2 ^ e)) := by
  obtain ⟨hcanonical, hmax⟩ := canonical_of_unpack hm (by decide) h
  change value? (unpack .binary64 (pack .binary64 (.finite s m e hm))) = _
  rw [unpack_pack_finite hm hcanonical hmax, value?]

/-! ## Exact binary fractions -/

def Binary.value (b : Binary) : ℚ := (if b.negative then -1 else 1) * (b.m * 2 ^ b.q)

theorem toNat_unpackExponent (b : BitVec 64) :
    (@unpackExponent .binary64 b).toNat = b.toNat / 2 ^ 52 % 2 ^ 11 := by
  rw [unpackExponent_def, BitVec.extractLsb'_toNat, Nat.shiftRight_eq_div_pow]

theorem toNat_unpackMantissa (b : BitVec 64) :
    (@unpackMantissa .binary64 b).toNat = b.toNat % 2 ^ 52 := by
  rw [unpackMantissa_def, BitVec.extractLsb'_toNat, Nat.shiftRight_zero]

theorem signed_unpackSign (b : BitVec 64) :
    signed (Sign.ofBitVec (@unpackSign .binary64 b)) =
      if 2 ^ 63 ≤ b.toNat then -1 else 1 := by
  have hlt := b.isLt
  have hbit : @unpackSign .binary64 b = 0#1 ↔ b.toNat < 2 ^ 63 := by
    rw [unpackSign_def, ← BitVec.toNat_inj, BitVec.extractLsb'_toNat, Nat.shiftRight_eq_div_pow]
    change b.toNat / 2 ^ 63 % 2 = 0 ↔ _
    omega
  rw [Sign.ofBitVec]
  by_cases hsign : b.toNat < 2 ^ 63
  · rw [if_pos (hbit.mpr hsign), if_neg (by omega), signed]
  · rw [if_neg (fun h => hsign (hbit.mp h)), if_pos (by omega), signed]

theorem ofFloat?_eq (x : Float) {exponent fraction : ℕ}
    (hexponent : x.toBits.toNat / 2 ^ 52 % 2 ^ 11 = exponent)
    (hfraction : x.toBits.toNat % 2 ^ 52 = fraction) :
    Binary.ofFloat? x =
      if exponent = 2047 then none
      else if exponent = 0 then some ⟨2 ^ 63 ≤ x.toBits.toNat, fraction, -1074⟩
      else some ⟨2 ^ 63 ≤ x.toBits.toNat, 2 ^ 52 + fraction, (exponent : ℤ) - 1075⟩ := by
  subst hexponent hfraction
  rfl

theorem map_value_ofFloat? (x : Float) :
    (Binary.ofFloat? x).map Binary.value = value? x.toModel.unpack := by
  let exponent := @unpackExponent .binary64 x.toBits.toBitVec
  let fraction := @unpackMantissa .binary64 x.toBits.toBitVec
  have hspecial : exponent = -1#11 ↔ exponent.toNat = 2047 := by
    rw [← BitVec.toNat_inj]
    rfl
  have hsmall : exponent = 0#11 ↔ exponent.toNat = 0 := by
    rw [← BitVec.toNat_inj]
    rfl
  have hzero : fraction = 0#52 ↔ fraction.toNat = 0 := by
    rw [← BitVec.toNat_inj]
    rfl
  change _ = value? (unpack .binary64 x.toBits.toBitVec)
  rw [unpack.eq_1, ofFloat?_eq x (toNat_unpackExponent _).symm (toNat_unpackMantissa _).symm]
  by_cases h2047 : exponent.toNat = 2047
  · rw [if_pos h2047, if_pos (hspecial.mpr h2047)]
    split <;> rfl
  rw [if_neg h2047, if_neg (fun h => h2047 (hspecial.mp h))]
  by_cases h0 : exponent.toNat = 0
  · rw [if_pos h0, if_pos (hsmall.mpr h0)]
    by_cases hf : fraction.toNat = 0
    · rw [dif_pos (hzero.mpr hf), hf]
      simp [Binary.value, value?]
    · rw [dif_neg (fun h => hf (hzero.mp h)), h0]
      simp only [Option.map_some, Binary.value, value?, signed_unpackSign, decide_eq_true_eq]
      rfl
  · rw [if_neg h0, if_neg (fun h => h0 (hsmall.mp h))]
    simp only [Option.map_some, Binary.value, value?, signed_unpackSign, decide_eq_true_eq,
      toNat_one_append]
    rfl

end Tabletop.Decimal
