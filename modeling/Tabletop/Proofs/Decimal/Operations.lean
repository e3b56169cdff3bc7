import Tabletop.Proofs.Decimal.Rounding

/-!
# Operations on floating point numbers

* `HasValue.add`, `HasValue.sub`, `HasValue.mul`, `HasValue.div`: the operations go to the number that
  is nearest to their exact result.
* `Decimal.hasValue_ofNat`: the natural numbers below `2 ^ 53` are exact.
* `Decimal.nearestInt?_eq`, `Decimal.hasValue_roundHalfAway`: the nearest integer to a floating point
  number is that of its value.
-/

namespace Tabletop.Decimal

open Float.Model (UnpackedFloat Format totalExponent)
open Float.Model.UnpackedFloat

/-! ## Signs and sums -/

theorem signed_neg (s : Sign) : signed (-s) = -signed s := by
  cases s
  · exact (neg_neg 1).symm
  · rfl

theorem signed_mul (s₁ s₂ : Sign) : signed (s₁ * s₂) = signed s₁ * signed s₂ := by
  rcases s₁ with _ | _ <;> rcases s₂ with _ | _ <;> norm_num [signed]

theorem signed_div (s₁ s₂ : Sign) : signed (s₁ / s₂) = signed s₁ / signed s₂ := by
  rcases s₁ with _ | _ <;> rcases s₂ with _ | _ <;> norm_num [signed]
  all_goals rfl

theorem apply_decreaseExponent (s : Sign) (m : ℕ) {e p : ℤ} (h : p ≤ e) :
    ((s.apply (decreaseExponent m e p).1 : ℤ) : ℚ) * 2 ^ p = signed s * (m * 2 ^ e) := by
  have hp : p = e - ((e - p).toNat : ℕ) := by omega
  rw [signed_apply, mul_assoc, decreaseExponent]
  dsimp only
  nth_rewrite 2 [hp]
  rw [Int.cast_natCast, shiftLeft_mul_zpow]

theorem nearest_round (sign : Sign) {m : ℕ} (e : ℤ) (hm : m ≠ 0) :
    Nearest (.ofModel (Float.Model.pack (UnpackedFloat.round .binary64 sign m e)))
      (signed sign * (m * 2 ^ e)) := by
  simp only [UnpackedFloat.round, decreaseExponent, targetExponent_eq]
  rw [← shiftLeft_mul_zpow m e (e - lastPlace m e).toNat]
  exact nearest_roundWithAccuracy (holds_exact _) (by rw [lastPlace_shiftLeft hm]; omega)

theorem nearest_normalize (sign : Sign) (i e : ℤ) :
    Nearest (.ofModel (Float.Model.pack (UnpackedFloat.normalize .binary64 i e sign)))
      (i * 2 ^ e) := by
  unfold UnpackedFloat.normalize
  rcases lt_trichotomy i 0 with hneg | rfl | hpos
  · obtain ⟨m, hm⟩ := Int.eq_ofNat_of_zero_le (a := -i) (by omega)
    obtain rfl : i = -(m : ℤ) := by omega
    rw [compare_lt_iff_lt.mpr hneg]
    simp only [neg_neg, Int.toNat_natCast]
    have h := nearest_round .negative (m := m) e (by omega)
    rw [signed] at h
    push_cast
    rwa [neg_mul, ← neg_one_mul]
  · rw [compare_eq_iff_eq.mpr rfl, Int.cast_zero, zero_mul]
    exact (hasValue_zero sign).nearest
  · obtain ⟨m, rfl⟩ := Int.eq_ofNat_of_zero_le hpos.le
    rw [compare_gt_iff_gt.mpr hpos]
    simp only [Int.toNat_natCast]
    have h := nearest_round .positive (m := m) e (by omega)
    rw [signed, one_mul] at h
    exact_mod_cast h

/-! ## Operations -/

section Operations

variable {x y : Float} {v w : ℚ}

theorem HasValue.neg (hx : HasValue x v) : HasValue (-x) (-v) := by
  change value? (Float.Model.pack x.toModel.unpack.neg).unpack = some (-v)
  obtain ⟨s, hu, rfl⟩ | ⟨s, m, e, hm, hu, rfl⟩ := value?_eq_some hx
  · rw [hu, UnpackedFloat.neg, neg_zero]
    exact hasValue_zero (-s)
  · rw [hu, UnpackedFloat.neg, ← neg_mul, ← signed_neg]
    exact hasValue_pack_of_unpack hu (-s)

theorem HasValue.add (hx : HasValue x v) (hy : HasValue y w) :
    Nearest (x + y) (v + w) := by
  change Nearest (.ofModel (Float.Model.pack
    (UnpackedFloat.add .binary64 x.toModel.unpack y.toModel.unpack))) (v + w)
  obtain ⟨s₁, hu₁, rfl⟩ | ⟨s₁, m₁, e₁, hm₁, hu₁, rfl⟩ := value?_eq_some hx <;>
    obtain ⟨s₂, hu₂, rfl⟩ | ⟨s₂, m₂, e₂, hm₂, hu₂, rfl⟩ := value?_eq_some hy <;>
    rw [hu₁, hu₂]
  · rw [UnpackedFloat.add, add_zero]
    split <;> exact (hasValue_zero _).nearest
  · rw [UnpackedFloat.add, zero_add]
    · exact (hasValue_pack_of_unpack hu₂ s₂).nearest
    all_goals simp
  · rw [UnpackedFloat.add, add_zero]
    · exact (hasValue_pack_of_unpack hu₁ s₁).nearest
    all_goals simp
  · simp only [UnpackedFloat.add]
    rw [← apply_decreaseExponent s₁ m₁ (min_le_left e₁ e₂),
      ← apply_decreaseExponent s₂ m₂ (min_le_right e₁ e₂), ← add_mul, ← Int.cast_add]
    exact nearest_normalize .positive _ _

theorem HasValue.sub (hx : HasValue x v) (hy : HasValue y w) :
    Nearest (x - y) (v - w) := by
  change Nearest (.ofModel (Float.Model.pack
    (UnpackedFloat.sub .binary64 x.toModel.unpack y.toModel.unpack))) (v - w)
  obtain ⟨s₁, hu₁, rfl⟩ | ⟨s₁, m₁, e₁, hm₁, hu₁, rfl⟩ := value?_eq_some hx <;>
    obtain ⟨s₂, hu₂, rfl⟩ | ⟨s₂, m₂, e₂, hm₂, hu₂, rfl⟩ := value?_eq_some hy <;>
    rw [hu₁, hu₂]
  · rw [UnpackedFloat.sub, sub_zero]
    split <;> exact (hasValue_zero _).nearest
  · rw [UnpackedFloat.sub, zero_sub, ← neg_mul, ← signed_neg]
    exact (hasValue_pack_of_unpack hu₂ (-s₂)).nearest
  · rw [UnpackedFloat.sub, sub_zero]
    · exact (hasValue_pack_of_unpack hu₁ s₁).nearest
    all_goals simp
  · simp only [UnpackedFloat.sub]
    rw [← apply_decreaseExponent s₁ m₁ (min_le_left e₁ e₂),
      ← apply_decreaseExponent s₂ m₂ (min_le_right e₁ e₂), ← sub_mul, ← Int.cast_sub]
    exact nearest_normalize .positive _ _

theorem HasValue.mul (hx : HasValue x v) (hy : HasValue y w) :
    Nearest (x * y) (v * w) := by
  change Nearest (.ofModel (Float.Model.pack
    (UnpackedFloat.mul .binary64 x.toModel.unpack y.toModel.unpack))) (v * w)
  obtain ⟨s₁, hu₁, rfl⟩ | ⟨s₁, m₁, e₁, hm₁, hu₁, rfl⟩ := value?_eq_some hx <;>
    obtain ⟨s₂, hu₂, rfl⟩ | ⟨s₂, m₂, e₂, hm₂, hu₂, rfl⟩ := value?_eq_some hy <;>
    rw [hu₁, hu₂]
  · rw [UnpackedFloat.mul, mul_zero]
    exact (hasValue_zero _).nearest
  · rw [UnpackedFloat.mul, zero_mul]
    exact (hasValue_zero _).nearest
  · rw [UnpackedFloat.mul, mul_zero]
    exact (hasValue_zero _).nearest
  · have hplace : e₁ + e₂ ≤ lastPlace (m₁ * m₂) (e₁ + e₂) := by
      rcases (full_or_least hu₁).2.2 with hfull | hleast₁
      · exact le_lastPlace_of_full (hfull.trans (Nat.le_mul_of_pos_right m₁ hm₂))
      · rcases (full_or_least hu₂).2.2 with hfull | hleast₂
        · exact le_lastPlace_of_full (hfull.trans (Nat.le_mul_of_pos_left m₂ hm₁))
        · unfold lastPlace
          omega
    have hvalue : signed s₁ * (m₁ * 2 ^ e₁) * (signed s₂ * (m₂ * 2 ^ e₂)) =
        signed (s₁ * s₂) * ((m₁ * m₂ : ℕ) * 2 ^ (e₁ + e₂)) := by
      rw [signed_mul, zpow_add₀ two_ne_zero]
      push_cast
      ring
    rw [hvalue]
    exact nearest_roundWithAccuracy (holds_exact _) hplace

theorem holds_accuracyOfFraction (n : ℕ) {d : ℕ} (hd : 0 < d) :
    Holds (.ofMantissaAndAccuracy (n / d) (accuracyOfFraction (n % d) d)) (n / d : ℚ) := by
  have hd' : (0 : ℚ) < d := by exact_mod_cast hd
  have hmod : ((n % d : ℕ) : ℚ) < d := by exact_mod_cast Nat.mod_lt n hd
  have hdiv : (n : ℚ) / d = (n / d : ℕ) + (n % d : ℕ) / d := by
    field_simp
    exact_mod_cast (Nat.div_add_mod n d).symm
  rw [hdiv]
  generalize n / d = q
  generalize n % d = r at hmod
  unfold accuracyOfFraction
  split
  · rename_i h0
    simp [h0, Holds, ExtendedMantissa.ofMantissaAndAccuracy]
  · rename_i h0
    have hr : (0 : ℚ) < r / d := div_pos (by exact_mod_cast Nat.pos_of_ne_zero h0) hd'
    have hone : (r : ℚ) / d < 1 := (div_lt_one hd').mpr hmod
    rcases lt_trichotomy (2 * r) d with hlt | heq | hgt
    · rw [compare_lt_iff_lt.mpr hlt]
      have hhalf : (r : ℚ) / d < 1 / 2 := by
        rw [div_lt_div_iff₀ hd' two_pos]
        exact_mod_cast (by omega : r * 2 < 1 * d)
      simp only [Holds, ExtendedMantissa.ofMantissaAndAccuracy]
      constructor <;> linarith
    · rw [compare_eq_iff_eq.mpr heq]
      have hhalf : (r : ℚ) / d = 1 / 2 := by
        rw [div_eq_div_iff hd'.ne' two_ne_zero]
        exact_mod_cast (by omega : r * 2 = 1 * d)
      simp only [Holds, ExtendedMantissa.ofMantissaAndAccuracy, hhalf]
    · rw [compare_gt_iff_gt.mpr hgt]
      have hhalf : (1 : ℚ) / 2 < r / d := by
        rw [div_lt_div_iff₀ two_pos hd']
        exact_mod_cast (by omega : 1 * d < r * 2)
      simp only [Holds, ExtendedMantissa.ofMantissaAndAccuracy]
      constructor <;> linarith

/-- The dividend is shifted far enough for the quotient to be full. -/
theorem le_lastPlace_divCore {m₁ m₂ k : ℕ} {p : ℤ} (hm₁ : 0 < m₁) (hm₂ : 0 < m₂)
    (h : p ≤ -1074 ∨ m₂.log2 + 53 ≤ m₁.log2 + k) : p ≤ lastPlace (m₁ <<< k / m₂) p := by
  rcases h with hleast | hwide
  · exact hleast.trans (le_max_right _ _)
  · refine le_lastPlace_of_full ?_
    rw [Nat.le_div_iff_mul_le hm₂, Nat.shiftLeft_eq]
    calc 2 ^ 52 * m₂ ≤ 2 ^ 52 * 2 ^ (m₂.log2 + 1) := Nat.mul_le_mul_left _ Nat.lt_log2_self.le
      _ = 2 ^ (m₂.log2 + 53) := by ring
      _ ≤ 2 ^ (m₁.log2 + k) := Nat.pow_le_pow_right (by omega) hwide
      _ = 2 ^ m₁.log2 * 2 ^ k := pow_add _ _ _
      _ ≤ m₁ * 2 ^ k := Nat.mul_le_mul_right _ (Nat.log2_self_le hm₁.ne')

theorem HasValue.div (hx : HasValue x v) (hy : HasValue y w) (hw : w ≠ 0) :
    Nearest (x / y) (v / w) := by
  change Nearest (.ofModel (Float.Model.pack
    (UnpackedFloat.div .binary64 x.toModel.unpack y.toModel.unpack))) (v / w)
  obtain ⟨s₂, hu₂, h0⟩ | ⟨s₂, m₂, e₂, hm₂, hu₂, rfl⟩ := value?_eq_some hy
  · exact absurd h0 hw
  obtain ⟨s₁, hu₁, rfl⟩ | ⟨s₁, m₁, e₁, hm₁, hu₁, rfl⟩ := value?_eq_some hx <;>
    rw [hu₁, hu₂]
  · rw [UnpackedFloat.div, zero_div]
    exact (hasValue_zero _).nearest
  · simp only [UnpackedFloat.div, divCore]
    obtain ⟨p, hp⟩ : ∃ p, min (e₁ - e₂) (Format.binary64.targetExponent
      (totalExponent m₁ e₁ - totalExponent m₂ e₂)) = p := ⟨_, rfl⟩
    obtain ⟨k, hk⟩ := Int.eq_ofNat_of_zero_le (a := e₁ - e₂ - p) (by omega)
    rw [hp, hk, Int.toNat_natCast]
    have hplace : p ≤ lastPlace (m₁ <<< k / m₂) p := by
      refine le_lastPlace_divCore hm₁ hm₂ ?_
      simp only [Format.targetExponent, totalExponent, Format.mantissaBits,
        Format.minExponent] at hp
      norm_num at hp
      omega
    have hvalue : signed s₁ * (m₁ * 2 ^ e₁) / (signed s₂ * (m₂ * 2 ^ e₂)) =
        signed (s₁ / s₂) * ((m₁ <<< k : ℕ) / m₂ * 2 ^ p) := by
      have he : e₁ = e₂ + p + k := by omega
      have hsigned : signed s₂ ≠ 0 := by cases s₂ <;> simp [signed]
      have hm₂ : (m₂ : ℚ) ≠ 0 := by exact_mod_cast hm₂.ne'
      rw [signed_div, Nat.shiftLeft_eq, he, zpow_add₀ two_ne_zero, zpow_add₀ two_ne_zero,
        zpow_natCast]
      push_cast
      field_simp
    rw [hvalue]
    exact nearest_roundWithAccuracy (holds_accuracyOfFraction _ hm₂) hplace

end Operations

theorem hasValue_one : HasValue (.ofBits 0x3FF0000000000000) 1 := by
  have h : unpack .binary64 (0x3FF0000000000000 : UInt64).toBitVec =
      .finite .positive (2 ^ 52) (-52) (by decide) := rfl
  have hplace : lastPlace (2 ^ 52) (-52) = -52 := by
    rw [lastPlace_two_pow (by omega)]
    omega
  change value? (Float.Model.pack
    (unpack .binary64 (0x3FF0000000000000 : UInt64).toBitVec)).unpack = _
  rw [h, unpack_pack _ hplace (by omega), value?, signed]
  norm_num

section WholeNumbers

variable {n : ℕ} (hn : n < 2 ^ 53)

include hn in
theorem abs_cast_lt : |(n : ℚ)| < 2 ^ ((0 : ℤ) + 53) := by
  rw [Nat.abs_cast, zero_add]
  exact_mod_cast hn

theorem exists_whole (n : ℕ) : ∃ z : ℤ, (n : ℚ) = z * 2 ^ (0 : ℤ) := ⟨n, by simp⟩

include hn in
theorem hasValue_toFloat : HasValue n.toUInt64.toFloat n := by
  have hword : n.toUInt64.toNat = n := by
    rw [Nat.toUInt64, UInt64.toNat_ofNat', Nat.mod_eq_of_lt (by omega)]
  have hint : Nearest n.toUInt64.toFloat n := by
    change Nearest (.ofModel (Float.Model.pack
      (UnpackedFloat.normalize .binary64 (n.toUInt64.toNat : ℤ) 0 .positive))) n
    rw [hword]
    simpa using nearest_normalize .positive n 0
  exact hint.hasValue (by omega) (by omega) (abs_cast_lt hn) (exists_whole n)

include hn in
theorem hasValue_ofNat : HasValue (Float.ofNat n) n := by
  have hproduct := (hasValue_toFloat hn).mul hasValue_one
  rw [mul_one] at hproduct
  have hofNat : Float.ofNat n = n.toUInt64.toFloat * .ofBits 0x3FF0000000000000 := by
    change Float.ofScientific n false 0 = _
    rw [Float.ofScientific, dif_pos ⟨hn, by omega⟩]
    rfl
  rw [hofNat]
  exact hproduct.hasValue (by omega) (by omega) (abs_cast_lt hn) (exists_whole n)

end WholeNumbers

/-! ## The nearest integer -/

/-- The nearest integer; halves go away from zero. -/
def roundAway (v : ℚ) : ℤ := if v < 0 then -round (-v) else round v

theorem abs_roundAway_sub (v : ℚ) : |roundAway v - v| ≤ 1 / 2 := by
  unfold roundAway
  split
  · have hneg : ((-round (-v) : ℤ) : ℚ) - v = -v - round (-v) := by
      push_cast
      ring
    rw [hneg]
    exact abs_sub_round (-v)
  · rw [abs_sub_comm]
    exact abs_sub_round v

theorem roundAway_eq_iff {v : ℚ} (hv : 0 ≤ v) {z : ℤ} :
    roundAway v = z ↔ z - 1 / 2 ≤ v ∧ v < z + 1 / 2 := by
  rw [roundAway, if_neg hv.not_gt, round_eq, Int.floor_eq_iff]
  constructor <;> rintro ⟨hlow, hhigh⟩ <;> constructor <;> linarith

theorem roundAway_mono (h : v ≤ w) : roundAway v ≤ roundAway w := by
  have hmono : ∀ {a b : ℚ}, a ≤ b → round a ≤ round b := fun {a b} hab => by
    rw [round_eq, round_eq]
    exact Int.floor_le_floor (by linarith)
  unfold roundAway
  split
  · split
    · exact neg_le_neg (hmono (neg_le_neg h))
    · have hneg := hmono (a := 0) (b := -v) (by linarith)
      have hpos := hmono (a := 0) (b := w) (by linarith)
      rw [round_zero] at hneg hpos
      omega
  · split
    · linarith
    · exact hmono h

theorem roundAway_intCast (z : ℤ) : roundAway z = z := by
  unfold roundAway
  split
  · rw [← Int.cast_neg, round_intCast, neg_neg]
  · exact round_intCast z

theorem divHalfUp_eq_round (n : ℕ) {d : ℕ} (hd : 0 < d) :
    (divHalfUp n d : ℤ) = round (n / d : ℚ) := by
  have hd' : (d : ℚ) ≠ 0 := by exact_mod_cast hd.ne'
  have hsum : (n / d : ℚ) + 1 / 2 = ((2 * n + d : ℕ) : ℚ) / ((2 * d : ℕ) : ℚ) := by
    push_cast
    field_simp
  rw [divHalfUp, round_eq, hsum, Rat.floor_natCast_div_natCast]
  rfl

theorem nearestInt?_eq {x : Float} {v : ℚ} (h : HasValue x v) :
    nearestInt? x = some (roundAway v) := by
  rw [HasValue, ← map_value_ofFloat?, Option.map_eq_some_iff] at h
  obtain ⟨⟨negative, m, q⟩, hb, rfl⟩ := h
  have hscale : ((m * 2 ^ q.toNat : ℕ) : ℚ) / (2 ^ (-q).toNat : ℕ) = m * 2 ^ q := by
    rcases Int.le_total 0 q with hq | hq
    · obtain ⟨k, rfl⟩ := Int.eq_ofNat_of_zero_le hq
      simp
    · obtain ⟨k, hk⟩ := Int.eq_ofNat_of_zero_le (Int.neg_nonneg_of_nonpos hq)
      obtain rfl : q = -(k : ℤ) := by omega
      simp [div_eq_mul_inv]
  have hsize := divHalfUp_eq_round (m * 2 ^ q.toNat) (Nat.two_pow_pos (-q).toNat)
  rw [hscale] at hsize
  have hnonneg : (0 : ℚ) ≤ m * 2 ^ q := by positivity
  rw [nearestInt?, hb, Option.map_some]
  simp only [Nat.pow_eq, hsize, Binary.value]
  cases negative
  · simp [roundAway, hnonneg.not_gt]
  · rcases hnonneg.eq_or_lt with h0 | hpos
    · simp [roundAway, ← h0]
    · simp [roundAway, hpos]

theorem hasValue_toFloat_whole {n : ℕ} (hn : n < 2 ^ 53) (negative : Bool) :
    HasValue (Binary.toFloat ⟨negative, n, 0⟩) (if negative then -n else n) := by
  have hquotient := (hasValue_toFloat hn).div hasValue_one one_ne_zero
  rw [div_one] at hquotient
  have hvalue := hquotient.hasValue (by omega) (by omega) (abs_cast_lt hn) (exists_whole n)
  have hsize : Float.ofScientific n true 0 = n.toUInt64.toFloat / .ofBits 0x3FF0000000000000 := by
    rw [Float.ofScientific, dif_pos ⟨hn, by omega⟩]
    rfl
  rw [Binary.toFloat]
  simp only [neg_zero, Int.toNat_zero, Nat.pow_eq, pow_zero, mul_one, hsize]
  cases negative
  · exact hvalue
  · exact hvalue.neg

theorem divHalfUp_le (n : ℕ) {d : ℕ} (hd : 0 < d) : divHalfUp n d ≤ n := by
  refine Nat.le_of_lt_succ ((Nat.div_lt_iff_lt_mul (by omega)).mpr ?_)
  nlinarith [Nat.mul_le_mul_left n hd]

theorem m_lt_of_ofFloat? {b : Binary} (h : Binary.ofFloat? x = some b) : b.m < 2 ^ 53 := by
  simp only [Binary.ofFloat?, Nat.pow_eq] at h
  split at h
  · cases h
  · split at h <;> cases Option.some.inj h <;> dsimp only <;> omega

theorem hasValue_roundHalfAway (hx : HasValue x v) :
    HasValue (roundHalfAway x) (roundAway v) := by
  have hnearest := nearestInt?_eq hx
  have hvalue := hx
  rw [HasValue, ← map_value_ofFloat?, Option.map_eq_some_iff] at hvalue
  obtain ⟨⟨negative, m, q⟩, hb, rfl⟩ := hvalue
  have hm : m < 2 ^ 53 := m_lt_of_ofFloat? hb
  rw [nearestInt?, hb, Option.map_some, Option.some.injEq] at hnearest
  rw [roundHalfAway, hb]
  dsimp only at hnearest ⊢
  split
  · rename_i hq
    obtain ⟨k, rfl⟩ := Int.eq_ofNat_of_zero_le hq
    have hwhole : Binary.value ⟨negative, m, k⟩ =
        ((if negative then -1 else 1) * (m * 2 ^ k : ℕ) : ℤ) := by
      cases negative <;> simp [Binary.value]
    rwa [hwhole, roundAway_intCast, ← hwhole]
  · rename_i hq
    have hzero : q.toNat = 0 := by omega
    rw [hzero, Nat.pow_eq, pow_zero, mul_one] at hnearest
    rw [← hnearest]
    have hle := divHalfUp_le m (Nat.two_pow_pos (-q).toNat)
    have h := hasValue_toFloat_whole (hle.trans_lt hm) negative
    cases negative
    · exact_mod_cast h
    · exact_mod_cast h

end Tabletop.Decimal
