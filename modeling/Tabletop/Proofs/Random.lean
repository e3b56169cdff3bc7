import Tabletop.Proofs.Decimal.Order
import Tabletop.Random

/-!
# Numbers drawn from an interval

A word becomes a number between 1 and 2, which is moved and stretched with two roundings.

* `Random.Drawn` is what is drawn by the leading bits of a word. `Random.Drawn.mono`: by more than
  that no less is drawn.
* `Random.Sampler.Within` says of a sampler that it stays in an interval.
* `Random.Span.hasValue_draw`: each draw of `nextFloat` is such a number, and none is outside of the
  interval: `Random.Span.nextFloat_within`.
* `Random.lowest` and `Random.highest` are generators with the least and the greatest draw.
-/

namespace Tabletop.Random

open Decimal
open Float.Model.UnpackedFloat (pack_unpack isNaNBits unpack)

/-! ## Words -/

/-- The number of the 52 leading bits. -/
def leading (w : UInt64) : ℕ := w.toNat / 2 ^ 12

theorem leading_lt (w : UInt64) : leading w < 2 ^ 52 := by
  have hlt := w.toNat_lt
  rw [leading]
  omega

theorem toNat_shiftRight (w : UInt64) : (w >>> 12).toNat = leading w := by
  rw [UInt64.toNat_shiftRight, Nat.shiftRight_eq_div_pow, leading]
  rfl

theorem toNat_or (w : UInt64) :
    ((0x3FF0000000000000 : UInt64) ||| w >>> 12).toNat = 1023 * 2 ^ 52 + leading w := by
  have hor := Nat.shiftLeft_add_eq_or_of_lt (leading_lt w) 1023
  rw [UInt64.toNat_or, toNat_shiftRight, ← Nat.shiftLeft_eq, hor]
  rfl

theorem toBits_ofBits {b : UInt64} (h : b.toNat / 2 ^ 52 % 2 ^ 11 ≠ 2047) :
    (Float.ofBits b).toBits = b := by
  have hnumber : @isNaNBits .binary64 b.toBitVec = false := by
    rw [isNaNBits, decide_eq_false_iff_not]
    rintro ⟨hexponent, -⟩
    refine h ?_
    have hnat := congrArg BitVec.toNat hexponent
    rw [toNat_unpackExponent] at hnat
    exact hnat
  refine UInt64.toBitVec_inj.mp ?_
  change (unpack .binary64 b.toBitVec).pack .binary64 = b.toBitVec
  rw [pack_unpack, hnumber]
  rfl

theorem hasValue_fromOneToTwo (w : UInt64) :
    HasValue (fromOneToTwo w) (1 + leading w / 2 ^ 52) := by
  have hlt := leading_lt w
  have hbits : (fromOneToTwo w).toBits.toNat = 1023 * 2 ^ 52 + leading w := by
    rw [fromOneToTwo, toBits_ofBits (by rw [toNat_or]; omega), toNat_or]
  have hexponent : (fromOneToTwo w).toBits.toNat / 2 ^ 52 % 2 ^ 11 = 1023 := by
    rw [hbits]
    omega
  have hfraction : (fromOneToTwo w).toBits.toNat % 2 ^ 52 = leading w := by
    rw [hbits]
    omega
  have hparts := ofFloat?_eq (fromOneToTwo w) hexponent hfraction
  have hpositive : ¬ 2 ^ 63 ≤ (fromOneToTwo w).toBits.toNat := by
    rw [hbits]
    omega
  rw [HasValue, ← map_value_ofFloat?, hparts, if_neg (by omega), if_neg (by omega), Option.map_some,
    Binary.value, decide_eq_false hpositive]
  norm_num
  ring

theorem hasValue_fraction (w : UInt64) : HasValue (fromOneToTwo w - 1.0) (leading w / 2 ^ 52) := by
  have hone : HasValue 1.0 1 := by
    have hparts : Binary.ofFloat? 1.0 = some ⟨false, 2 ^ 52, -52⟩ := by decide +kernel
    rw [HasValue, ← map_value_ofFloat?, hparts, Option.map_some]
    norm_num [Binary.value]
  have hlt : (leading w : ℚ) < 2 ^ 52 := by exact_mod_cast leading_lt w
  have hdifference : (1 + leading w / 2 ^ 52 - 1 : ℚ) = leading w / 2 ^ 52 := by ring
  have hnearest := (hasValue_fromOneToTwo w).sub hone
  rw [hdifference] at hnearest
  refine hnearest.hasValue (N := -52) (by omega) (by omega) ?_ ⟨leading w, ?_⟩
  · rw [abs_of_nonneg (by positivity), div_lt_iff₀ (by positivity)]
    norm_num only at hlt ⊢
    linarith
  · rw [zpow_neg, div_eq_mul_inv]
    rfl

/-! ## Intervals -/

/-- The ends of an interval with a length that can be written as a floating point number, rounded. -/
structure Span (low high : Float) (l h s : ℚ) : Prop where
  lower : HasValue low l
  upper : HasValue high h
  ordered : l ≤ h
  length : HasValue (high - low) s
  rounded : Rounded (h - l) s

theorem exists_span {low high : Float} (hfinite : (high - low).isFinite = true)
    (hle : low ≤ high) : ∃ l h s, Span low high l h s := by
  obtain ⟨hhigh, hlow⟩ := isFinite_of_sub hfinite
  obtain ⟨h, hh⟩ := isFinite_iff.mp hhigh
  obtain ⟨l, hl⟩ := isFinite_iff.mp hlow
  obtain ⟨s, hs⟩ := isFinite_iff.mp hfinite
  obtain ⟨s', hs', hrounded⟩ := (hh.sub hl).rounds_of_hasValue hs
  obtain rfl := hs.unique hs'
  exact ⟨l, h, s, hl, hh, (hl.le_iff hh).mp hle, hs, hrounded⟩

/-! ## Draws -/

/-- What is drawn by the number `k` of 52 bits: a part of the length, added to the lower end. -/
def Drawn (l s : ℚ) (k : ℕ) (x : ℚ) : Prop :=
  ∃ p, Rounded (k / 2 ^ 52 * s) p ∧ Rounded (p + l) x

theorem Drawn.mono {l s x x' : ℚ} {k k' : ℕ} (hs : 0 ≤ s) (hk : k ≤ k') (h : Drawn l s k x)
    (h' : Drawn l s k' x') : x ≤ x' := by
  obtain ⟨p, hp, hx⟩ := h
  obtain ⟨p', hp', hx'⟩ := h'
  have hk : (k : ℚ) ≤ k' := by exact_mod_cast hk
  have hpart : (k : ℚ) / 2 ^ 52 * s ≤ k' / 2 ^ 52 * s :=
    mul_le_mul_of_nonneg_right (div_le_div_of_nonneg_right hk (by positivity)) hs
  exact hx.mono hx' (by linarith [hp.mono hp' hpart])

namespace Span

variable {low high : Float} {l h s : ℚ}

theorem length_nonneg (i : Span low high l h s) : 0 ≤ s := by
  have hzero := (hasValue_zero .positive).rounded
  exact hzero.mono i.rounded (sub_nonneg.mpr i.ordered)

/-- The exact length is a multiple of the smallest number. It is only rounded up if its last place is
larger than that. -/
theorem full_of_up (i : Span low high l h s) {q : ℤ} (hq : RoundedAt (h - l) s q) (hup : h - l < s) :
    2 ^ (q + 52) ≤ h - l := by
  rcases hq.full with hfull | hleast
  · rwa [abs_of_nonneg (sub_nonneg.mpr i.ordered)] at hfull
  · obtain ⟨a, ha⟩ := i.upper.exists_multiple
    obtain ⟨b, hb⟩ := i.lower.exists_multiple
    have hexact : s = h - l := by
      refine i.rounded.eq (N := -1074) le_rfl (hleast ▸ hq.width) ⟨a - b, ?_⟩
      rw [ha, hb, Int.cast_sub, sub_mul]
    exact absurd hexact hup.ne'

/-- A part of the rounded length is no longer than the exact length: where the length has been rounded
up, a place at least is missing to the whole. -/
theorem part_le (i : Span low high l h s) {k : ℕ} (hk : k < 2 ^ 52) {p : ℚ}
    (hp : Rounded (k / 2 ^ 52 * s) p) : p ≤ h - l := by
  have hs := i.length_nonneg
  have hpart : (k : ℚ) / 2 ^ 52 * s ≤ s - s / 2 ^ 52 := by
    have hcast : (k : ℚ) + 1 ≤ 2 ^ 52 := by exact_mod_cast hk
    have hscaled := mul_le_mul_of_nonneg_right hcast (div_nonneg hs (by positivity : (0 : ℚ) ≤ 2 ^ 52))
    rw [add_mul, one_mul, mul_div_cancel₀ s (by positivity)] at hscaled
    rw [div_mul_eq_mul_div, mul_div_assoc]
    linarith
  rcases le_or_gt s (h - l) with hdown | hup
  · refine (hp.mono i.length.rounded ?_).trans hdown
    linarith [div_nonneg hs (by positivity : (0 : ℚ) ≤ 2 ^ 52)]
  · obtain ⟨q, hq⟩ := i.rounded
    have hplace : (2 : ℚ) ^ q ≤ s / 2 ^ 52 := by
      have hsplit : (2 : ℚ) ^ (q + 52) = 2 ^ q * 2 ^ 52 := zpow_add₀ two_ne_zero q 52
      rw [le_div_iff₀ (by positivity), ← hsplit]
      exact (i.full_of_up hq hup).trans hup.le
    have hhalf : (2 : ℚ) ^ (q - 1) = 2 ^ q / 2 := zpow_sub_one₀ two_ne_zero q
    have hpos : (0 : ℚ) < 2 ^ q := by positivity
    have hless : s - 2 ^ q ≤ h - l := by linarith [(abs_le.mp hq.near).2]
    obtain ⟨z, hz⟩ := hq.multiple
    refine le_trans (hp.le hq.least ?_ ⟨z - 1, ?_⟩ ?_) hless
    · rw [abs_of_nonneg (mul_nonneg (by positivity) hs)]
      linarith [(abs_lt.mp hq.width).2]
    · rw [hz, Int.cast_sub, Int.cast_one, sub_mul, one_mul]
    · linarith

/-- The number that a word draws from an interval. -/
def draw (low high : Float) (w : UInt64) : Float := (fromOneToTwo w - 1.0) * (high - low) + low

theorem hasValue_draw (i : Span low high l h s) (w : UInt64) :
    ∃ x, HasValue (draw low high w) x ∧ Drawn l s (leading w) x ∧ l ≤ x ∧ x ≤ h := by
  have hs := i.length_nonneg
  have hlt : (leading w : ℚ) / 2 ^ 52 ≤ 1 := by
    rw [div_le_one (by positivity)]
    exact_mod_cast (leading_lt w).le
  have hpart : 0 ≤ (leading w : ℚ) / 2 ^ 52 * s := mul_nonneg (by positivity) hs
  have hsmall : |(leading w : ℚ) / 2 ^ 52 * s| < threshold := by
    have hlength := i.length.abs_lt_threshold
    rw [abs_of_nonneg hs] at hlength
    rw [abs_of_nonneg hpart]
    exact (mul_le_of_le_one_left hs hlt).trans_lt hlength
  obtain ⟨p, hpvalue, hp⟩ := ((hasValue_fraction w).mul i.length).rounds hsmall
  have hzero := (hasValue_zero .positive).rounded
  have hpos : 0 ≤ p := hzero.mono hp hpart
  have hle : p ≤ h - l := i.part_le (leading_lt w) hp
  have hinside : |p + l| < threshold := by
    have hlow := (abs_lt.mp i.lower.abs_lt_threshold).1
    have hhigh := (abs_lt.mp i.upper.abs_lt_threshold).2
    exact abs_lt.mpr ⟨by linarith, by linarith⟩
  obtain ⟨x, hxvalue, hx⟩ := (hpvalue.add i.lower).rounds hinside
  refine ⟨x, hxvalue, ⟨p, hp, hx⟩, ?_, ?_⟩
  · exact i.lower.rounded.mono hx (by linarith)
  · exact hx.mono i.upper.rounded (by linarith)

end Span

/-- What is drawn from the interval is in it, whatever the words are. -/
def Sampler.Within (sample : Sampler) (low high : Float) : Prop :=
  ∀ r, low ≤ (sample low high r).1 ∧ (sample low high r).1 ≤ high

theorem Span.nextFloat_within {low high : Float} {l h s : ℚ} (i : Span low high l h s) :
    Sampler.Within nextFloat low high := by
  intro r
  obtain ⟨x, hx, -, hlow, hhigh⟩ := i.hasValue_draw r.next64.1
  exact ⟨(i.lower.le_iff hx).mpr hlow, (hx.le_iff i.upper).mpr hhigh⟩

/-! ## The ends -/

/-- The first word of this generator has no leading bits. -/
def lowest : Random := ⟨13609297275195716497⟩

/-- The first word of this generator has all leading bits. -/
def highest : Random := ⟨10404143373694805560⟩

theorem leading_lowest : leading lowest.next64.1 = 0 := by decide

theorem leading_highest : leading highest.next64.1 = 2 ^ 52 - 1 := by decide

/-- The greatest number that is drawn from an interval. -/
def greatest (low high : Float) : Float := Span.draw low high highest.next64.1

end Tabletop.Random
