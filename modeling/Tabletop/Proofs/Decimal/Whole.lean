import Tabletop.Decimal.Whole
import Tabletop.Text.Blank

/-!
# Whole numbers are read as they are written

* `readDigits?_digits` and `readUInt32?_digits`: a number is read from its digits.
* `digits_of_readDigits?`: the digits from which a number has been read are those that are written
  for it, up to zeros in front.
-/

namespace Tabletop

namespace Text

theorem isDigit_iff {c : Char} : c.isDigit = true ↔ 48 ≤ c.toNat ∧ c.toNat ≤ 57 := by
  simp only [Char.isDigit, Bool.and_eq_true, decide_eq_true_eq]
  rfl

theorem isBlank_of_isDigit {c : Char} (h : c.isDigit = true) : isBlank c = false := by
  rw [isDigit_iff] at h
  simp only [isBlank, Bool.or_eq_false_iff, Bool.and_eq_false_iff, decide_eq_false_iff_not,
    beq_eq_false_iff_ne]
  omega

end Text

namespace Decimal

theorem toNat_le_word32 (n : UInt32) : n.toNat ≤ word32 := Nat.le_of_lt_succ n.toNat_lt

theorem toNat_ofNat_of_le {n : Nat} (h : n ≤ word32) : (UInt32.ofNat n).toNat = n := by
  rw [UInt32.toNat_ofNat', Nat.mod_eq_of_lt]
  exact Nat.lt_succ_of_le h

/-! ## Digits that are written -/

theorem isDigit_of_mem_digits {n : Nat} {c : Char} (h : c ∈ digits n) : c.isDigit = true :=
  Nat.isDigit_of_mem_toDigits (by decide) (by decide) h

theorem ne_of_mem_digits {n : Nat} {c x : Char} (hx : x.isDigit = false) (h : c ∈ digits n) :
    c ≠ x := by
  rintro rfl
  rw [isDigit_of_mem_digits h] at hx
  cases hx

theorem isBlank_of_mem_digits {n : Nat} {c : Char} (h : c ∈ digits n) :
    Text.isBlank c = false := Text.isBlank_of_isDigit (isDigit_of_mem_digits h)

theorem readDigits?_eq_some_iff {cs : List Char} {n : Nat} :
    readDigits? cs = some n ↔
      cs ≠ [] ∧ (∀ c ∈ cs, c.isDigit = true) ∧ Nat.ofDigitChars 10 cs 0 = n := by
  rw [readDigits?]
  split
  · rename_i hbad
    refine iff_of_false (by simp) fun ⟨hne, hall, _⟩ => ?_
    simp [hne, List.all_eq_true.mpr hall] at hbad
  · rename_i hgood
    simp only [Bool.or_eq_true, Bool.not_eq_true', not_or, Bool.not_eq_true, Bool.not_eq_false,
      List.isEmpty_eq_false_iff, List.all_eq_true] at hgood
    rw [Option.some.injEq]
    exact ⟨fun hn => ⟨hgood.1, hgood.2, hn⟩, fun h => h.2.2⟩

theorem readDigits?_digits (n : Nat) : readDigits? (digits n) = some n :=
  readDigits?_eq_some_iff.mpr
    ⟨Nat.toDigits_ne_nil, fun _ hc => isDigit_of_mem_digits hc, Nat.ofDigitChars_ten_toDigits⟩

theorem withoutPlus_digits (n : Nat) : withoutPlus (digits n) = digits n := by
  unfold withoutPlus
  split
  · rename_i rest h
    exact absurd rfl (ne_of_mem_digits (x := '+') (by decide) (h ▸ List.mem_cons_self))
  · rfl

theorem readUInt32?_digits (n : UInt32) : readUInt32? (digits n.toNat) = some n := by
  rw [readUInt32?, readNat?, withoutPlus_digits, readDigits?_digits,
    Option.filter_some_pos (by simpa using toNat_le_word32 n)]
  simp

/-! ## Digits that are read -/

/-- Digits without the zeros in front of other digits. -/
def withoutZeros : List Char → List Char
  | [] => []
  | [c] => [c]
  | c :: d :: rest =>
    if c = '0' ∧ d.isDigit = true then withoutZeros (d :: rest) else c :: d :: rest

/-- Zeros in front make no difference to what is read. -/
theorem readDigits?_withoutZeros (cs : List Char) :
    readDigits? (withoutZeros cs) = readDigits? cs := by
  induction cs using withoutZeros.induct with
  | case1 => rfl
  | case2 c => rfl
  | case3 c d rest hzero ih =>
    rw [withoutZeros, if_pos hzero, ih]
    obtain ⟨rfl, -⟩ := hzero
    simp [readDigits?, Nat.ofDigitChars_cons]
  | case4 c d rest hother => rw [withoutZeros, if_neg hother]

theorem digitChar_of_isDigit {c : Char} (h : c.isDigit = true) :
    c.toNat - '0'.toNat < 10 ∧ (c.toNat - '0'.toNat).digitChar = c := by
  obtain ⟨hlow, hhigh⟩ := Text.isDigit_iff.mp h
  have hsmall : c.toNat - 48 < 10 := by omega
  refine ⟨hsmall, Char.toNat_inj.mp ?_⟩
  exact (Nat.toNat_digitChar_of_lt_ten hsmall).trans (Nat.add_sub_cancel' hlow)

/-- Digits that are read after a number has begun are written after it. -/
theorem digits_ofDigitChars {n : Nat} (hn : 0 < n) {cs : List Char}
    (h : ∀ c ∈ cs, c.isDigit = true) : digits (Nat.ofDigitChars 10 cs n) = digits n ++ cs := by
  induction cs generalizing n with
  | nil => rw [Nat.ofDigitChars_nil, List.append_nil]
  | cons c cs ih =>
    obtain ⟨hsmall, hchar⟩ := digitChar_of_isDigit (h c List.mem_cons_self)
    rw [Nat.ofDigitChars_cons, ih (by omega) fun d hd => h d (List.mem_cons_of_mem c hd), digits,
      ← Nat.toDigits_append_toDigits (by decide) hn hsmall, Nat.toDigits_of_lt_base hsmall, hchar,
      List.append_assoc]
    rfl

/-- What is written for a number that has been read. -/
theorem digits_of_readDigits? {cs : List Char} {n : Nat} (h : readDigits? cs = some n) :
    digits n = withoutZeros cs := by
  induction cs using withoutZeros.induct with
  | case1 => cases h
  | case2 c =>
    obtain ⟨-, hdigits, rfl⟩ := readDigits?_eq_some_iff.mp h
    obtain ⟨hsmall, hchar⟩ := digitChar_of_isDigit (hdigits c List.mem_cons_self)
    rw [Nat.ofDigitChars_cons, Nat.ofDigitChars_nil, Nat.mul_zero, Nat.zero_add, digits,
      Nat.toDigits_of_lt_base hsmall, hchar, withoutZeros]
  | case3 c d rest hzero ih =>
    have hread := readDigits?_withoutZeros (c :: d :: rest)
    rw [withoutZeros, if_pos hzero] at hread ⊢
    rw [readDigits?_withoutZeros, h] at hread
    exact ih hread
  | case4 c d rest hother =>
    obtain ⟨-, hdigits, rfl⟩ := readDigits?_eq_some_iff.mp h
    obtain ⟨hc, hrest⟩ := List.forall_mem_cons.mp hdigits
    obtain ⟨hsmall, hchar⟩ := digitChar_of_isDigit hc
    -- The first digit is no zero: otherwise it would have been left out.
    have hpos : 0 < c.toNat - '0'.toNat := by
      refine Nat.pos_of_ne_zero fun hzero => hother ⟨?_, hrest d List.mem_cons_self⟩
      rw [← hchar, hzero]
      rfl
    rw [Nat.ofDigitChars_cons, Nat.mul_zero, Nat.zero_add, digits_ofDigitChars hpos hrest, digits,
      Nat.toDigits_of_lt_base hsmall, hchar, withoutZeros, if_neg hother]
    rfl

end Decimal

end Tabletop
