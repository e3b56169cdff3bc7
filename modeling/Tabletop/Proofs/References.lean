import Mathlib.Data.List.DropRight
import Tabletop.Cell
import Tabletop.Proofs.TokenId

/-!
# References of cells

The letters of a reference are the digits of its column: each has a value from 1 to 26, so that no
number is written in two ways. The digits of its row may have zeros in front.

* `lettersValue_lettersOf` and `lettersOf_lettersValue`: letters and numbers stand for each other,
  up to the case of the letters.
* `ofReferenceChars?_eq_some_iff`: which cell is read from a text.
* `ofReference?_reference?`: what is written for a cell is read as that cell, unless the cell is in
  the last column that there is.
* `reference?_ofReference?`: what is written for the cell that has been read is the normal form of
  what was read. Texts with one normal form are read alike.
-/

namespace Tabletop

/-! ## Characters -/

namespace Text

theorem isAlpha_of_isDigit {c : Char} (h : c.isDigit = true) : c.isAlpha = false := by
  rw [isDigit_iff] at h
  rw [← Bool.not_eq_true, isAlpha_iff]
  omega

theorem isBlank_of_isAlpha {c : Char} (h : c.isAlpha = true) : isBlank c = false := by
  rw [isAlpha_iff] at h
  simp only [isBlank, Bool.or_eq_false_iff, Bool.and_eq_false_iff, decide_eq_false_iff_not,
    beq_eq_false_iff_ne]
  omega

end Text

namespace Cell

/-! ## Letters -/

/-- The letters from `A` to `Z`, in either case, have the values from 1 to 26. -/
theorem letterOf_of_isAlpha {c : Char} (h : c.isAlpha = true) :
    ∃ d < 26, letterValue c = d + 1 ∧ letterOf d = c.toUpper := by
  have hascii : c.toNat < 128 := by
    rw [Text.isAlpha_iff] at h
    omega
  have htable : ∀ n : Fin 128, (Char.ofNat n).isAlpha = true →
      letterValue (Char.ofNat n) ≤ 26 ∧
        letterOf (letterValue (Char.ofNat n) - 1) = (Char.ofNat n).toUpper := by decide
  have hrow := htable ⟨c.toNat, hascii⟩
  simp only [Char.ofNat_toNat] at hrow
  obtain ⟨hle, hletter⟩ := hrow h
  have hpos : 0 < letterValue c := Nat.succ_pos _
  exact ⟨letterValue c - 1, by omega, by omega, hletter⟩

theorem isAlpha_letterOf {d : Nat} (h : d < 26) : (letterOf d).isAlpha = true := by
  have htable : ∀ d : Fin 26, (letterOf d).isAlpha = true := by decide
  exact htable ⟨d, h⟩

theorem letterValue_letterOf {d : Nat} (h : d < 26) : letterValue (letterOf d) = d + 1 := by
  have htable : ∀ d : Fin 26, letterValue (letterOf d) = d + 1 := by decide
  exact htable ⟨d, h⟩

theorem lettersValue_concat (cs : List Char) (c : Char) :
    lettersValue (cs ++ [c]) = 26 * lettersValue cs + letterValue c := List.foldl_concat ..

theorem lettersOf_of_pos {n : Nat} (h : 0 < n) :
    lettersOf n = lettersOf ((n - 1) / 26) ++ [letterOf ((n - 1) % 26)] := by
  rw [lettersOf, if_neg (Nat.ne_of_gt h)]

theorem lettersOf_zero : lettersOf 0 = [] := by
  rw [lettersOf, if_pos rfl]

theorem lettersOf_concat (n : Nat) {d : Nat} (h : d < 26) :
    lettersOf (26 * n + (d + 1)) = lettersOf n ++ [letterOf d] := by
  have hfront : (26 * n + (d + 1) - 1) / 26 = n := by omega
  have hlast : (26 * n + (d + 1) - 1) % 26 = d := by omega
  rw [lettersOf_of_pos (by omega), hfront, hlast]

theorem isAlpha_lettersOf (n : Nat) : ∀ c ∈ lettersOf n, c.isAlpha = true := by
  induction n using lettersOf.induct with
  | case1 =>
    rw [lettersOf_zero]
    exact List.forall_mem_nil _
  | case2 n hne ih =>
    rw [lettersOf_of_pos (Nat.pos_of_ne_zero hne)]
    refine List.forall_mem_append.mpr ⟨ih, List.forall_mem_singleton.mpr ?_⟩
    exact isAlpha_letterOf (Nat.mod_lt _ (by decide))

theorem lettersValue_lettersOf (n : Nat) : lettersValue (lettersOf n) = n := by
  induction n using lettersOf.induct with
  | case1 =>
    rw [lettersOf_zero]
    rfl
  | case2 n hne ih =>
    rw [lettersOf_of_pos (Nat.pos_of_ne_zero hne), lettersValue_concat, ih,
      letterValue_letterOf (Nat.mod_lt _ (by decide))]
    omega

theorem lettersOf_lettersValue {cs : List Char} (h : ∀ c ∈ cs, c.isAlpha = true) :
    lettersOf (lettersValue cs) = cs.map Char.toUpper := by
  induction cs using List.reverseRecOn with
  | nil => exact lettersOf_zero
  | append_singleton cs c ih =>
    -- The last letter is what is left over 26 times the others. It is never zero, so that nothing
    -- has to be carried.
    obtain ⟨d, hd, hvalue, hletter⟩ := letterOf_of_isAlpha (h c List.mem_concat_self)
    rw [lettersValue_concat, hvalue, lettersOf_concat _ hd, hletter,
      ih fun c' hc' => h c' (List.mem_append_left _ hc'), List.map_append]
    rfl

theorem lettersValue_map_toUpper {cs : List Char} (h : ∀ c ∈ cs, c.isAlpha = true) :
    lettersValue (cs.map Char.toUpper) = lettersValue cs := by
  rw [← lettersOf_lettersValue h, lettersValue_lettersOf]

theorem lettersValue_pos_iff {cs : List Char} : 0 < lettersValue cs ↔ cs ≠ [] := by
  cases cs using List.reverseRecOn with
  | nil => exact iff_of_false (Nat.lt_irrefl 0) (not_not_intro rfl)
  | append_singleton cs c =>
    have hpos : 0 < letterValue c := Nat.succ_pos _
    rw [lettersValue_concat]
    exact iff_of_true (by omega) (by simp)

/-! ## Reading -/

/-- The part of a text that is read as the column. -/
def columnLetters (cs : List Char) : List Char := (Text.trim cs).takeWhile Char.isAlpha

/-- The part of a text that is read as the row, and that is digits in a reference. -/
def rowDigits (cs : List Char) : List Char := (Text.trim cs).dropWhile Char.isAlpha

theorem isAlpha_columnLetters (cs : List Char) : ∀ c ∈ columnLetters cs, c.isAlpha = true :=
  fun _ => List.mem_takeWhile_imp

section Reading

variable {base : RowBase} {cs : List Char}

theorem ofReferenceChars?_of_none (h : Decimal.readDigits? (rowDigits cs) = none) :
    ofReferenceChars? base cs = none := by
  unfold rowDigits at h
  unfold ofReferenceChars?
  simp only [h, ite_self]

theorem ofReferenceChars?_of_some {row : Nat}
    (h : Decimal.readDigits? (rowDigits cs) = some row) :
    ofReferenceChars? base cs =
      if (columnLetters cs).isEmpty then none
      else if row ≤ Decimal.word32 ∧ base.offset ≤ row ∧
          lettersValue (columnLetters cs) ≤ Decimal.word32 then
        some ⟨UInt32.ofNat (lettersValue (columnLetters cs) - 1), UInt32.ofNat (row - base.offset)⟩
      else none := by
  unfold rowDigits at h
  unfold ofReferenceChars? columnLetters
  simp only [h]

/-- Which cell is read. The number of the column is one more than its count and must have 32 bits
itself. -/
theorem ofReferenceChars?_eq_some_iff {c : Cell} :
    ofReferenceChars? base cs = some c ↔
      lettersValue (columnLetters cs) = c.col.toNat + 1 ∧
        Decimal.readDigits? (rowDigits cs) = some (c.row.toNat + base.offset) ∧
        c.col.toNat + 1 ≤ Decimal.word32 ∧ c.row.toNat + base.offset ≤ Decimal.word32 := by
  have hpos : 0 < lettersValue (columnLetters cs) ↔ columnLetters cs ≠ [] := lettersValue_pos_iff
  cases hdigits : Decimal.readDigits? (rowDigits cs) with
  | none => simp [ofReferenceChars?_of_none hdigits]
  | some row =>
    rw [ofReferenceChars?_of_some hdigits]
    generalize columnLetters cs = letters at hpos ⊢
    rw [Option.ite_none_left_eq_some, Option.ite_none_right_eq_some, Option.some.injEq,
      Option.some.injEq]
    constructor
    · rintro ⟨hsome, ⟨hrow, hoffset, hcol⟩, rfl⟩
      have hvalue := hpos.mpr (by simpa using hsome)
      rw [Decimal.toNat_ofNat_of_le (by omega), Decimal.toNat_ofNat_of_le (by omega),
        Nat.sub_add_cancel hvalue, Nat.sub_add_cancel hoffset]
      exact ⟨rfl, rfl, hcol, hrow⟩
    · rintro ⟨hcol, rfl, hcolFits, hrowFits⟩
      have hsome : letters ≠ [] := hpos.mp (by omega)
      refine ⟨by simpa using hsome, ⟨hrowFits, Nat.le_add_left _ _, by omega⟩, ?_⟩
      rw [hcol, Nat.add_sub_cancel, Nat.add_sub_cancel, UInt32.ofNat_toNat, UInt32.ofNat_toNat]

end Reading

/-! ## Writing -/

theorem reference?_eq_some_iff {base : RowBase} {c : Cell} {s : String} :
    reference? base c = some s ↔ c.row.toNat + base.offset ≤ Decimal.word32 ∧
      s.toList = lettersOf (c.col.toNat + 1) ++ Decimal.digits (c.row.toNat + base.offset) := by
  unfold reference?
  dsimp only
  rw [Option.ite_none_right_eq_some, Option.some.injEq, ← String.toList_inj, String.toList_ofList]
  exact and_congr_right fun _ => eq_comm

/-- The letters and the digits that are written are found again. -/
theorem parts_of_reference? {base : RowBase} {c : Cell} {s : String}
    (h : reference? base c = some s) :
    columnLetters s.toList = lettersOf (c.col.toNat + 1) ∧
      rowDigits s.toList = Decimal.digits (c.row.toNat + base.offset) := by
  obtain ⟨-, hs⟩ := reference?_eq_some_iff.mp h
  have hletters := isAlpha_lettersOf (c.col.toNat + 1)
  have hdigits : Text.Stops Char.isAlpha (Decimal.digits (c.row.toNat + base.offset)) :=
    fun _ hx => Text.isAlpha_of_isDigit (Decimal.isDigit_of_mem_digits (List.mem_of_head? hx))
  have htrim : Text.trim s.toList = s.toList := by
    refine Text.trim_eq_self fun x hx => ?_
    rw [hs] at hx
    rcases List.mem_append.mp hx with hx | hx
    · exact Text.isBlank_of_isAlpha (hletters x hx)
    · exact Decimal.isBlank_of_mem_digits hx
  rw [columnLetters, rowDigits, htrim, hs]
  exact ⟨Text.takeWhile_append hletters hdigits, Text.dropWhile_append hletters hdigits⟩

/-- What is written for a cell is read as that cell, unless it is in the last column that there is:
what is written for a cell of that column is read as no cell. -/
theorem ofReference?_reference? {base : RowBase} {c : Cell} {s : String}
    (h : reference? base c = some s) :
    ofReference? base s = if c.col.toNat < Decimal.word32 then some c else none := by
  obtain ⟨hletters, hdigits⟩ := parts_of_reference? h
  obtain ⟨hrow, -⟩ := reference?_eq_some_iff.mp h
  split
  · rename_i hcol
    refine ofReferenceChars?_eq_some_iff.mpr ⟨?_, ?_, hcol, hrow⟩
    · rw [hletters, lettersValue_lettersOf]
    · rw [hdigits, Decimal.readDigits?_digits]
  · rename_i hcol
    refine Option.eq_none_iff_forall_ne_some.mpr fun d hd => hcol ?_
    obtain ⟨hvalue, -, hfits, -⟩ := ofReferenceChars?_eq_some_iff.mp hd
    rw [hletters, lettersValue_lettersOf] at hvalue
    omega

/-- The last row and the last column but one. -/
theorem ofReference?_reference?_next_to_last :
    reference? .zero ⟨0xFFFFFFFE, 0xFFFFFFFF⟩ = some "MWLQKWU4294967295" ∧
      ofReference? .zero "MWLQKWU4294967295" = some ⟨0xFFFFFFFE, 0xFFFFFFFF⟩ := by
  have hwritten : reference? .zero ⟨0xFFFFFFFE, 0xFFFFFFFF⟩ = some "MWLQKWU4294967295" := by
    decide +kernel
  exact ⟨hwritten, (ofReference?_reference? hwritten).trans (if_pos (by decide))⟩

/-- The letters of the last column stand for a number that does not have 32 bits. -/
theorem last_column_unread :
    reference? .one ⟨0xFFFFFFFF, 0⟩ = some "MWLQKWV1" ∧ ofReference? .one "MWLQKWV1" = none := by
  decide +kernel

/-! ## The normal form of a reference -/

/-- A text without white space around it, the letters in front of it in upper case, and without the
zeros in front of the digits that follow. -/
def normalForm (s : String) : String :=
  String.ofList ((columnLetters s.toList).map Char.toUpper ++
    Decimal.withoutZeros (rowDigits s.toList))

theorem stops_withoutZeros {cs : List Char} (h : Text.Stops Char.isAlpha cs) :
    Text.Stops Char.isAlpha (Decimal.withoutZeros cs) := by
  induction cs using Decimal.withoutZeros.induct with
  | case1 => exact h
  | case2 c => exact h
  | case3 c d rest hzero ih =>
    have hd : d.isAlpha = false := Text.isAlpha_of_isDigit hzero.2
    rw [Decimal.withoutZeros, if_pos hzero]
    exact ih (Text.stops_cons hd rest)
  | case4 c d rest hother =>
    rw [Decimal.withoutZeros, if_neg hother]
    exact h

theorem isAlpha_toUpper {c : Char} (h : c.isAlpha = true) : c.toUpper.isAlpha = true := by
  obtain ⟨d, hd, -, hletter⟩ := letterOf_of_isAlpha h
  rw [← hletter]
  exact isAlpha_letterOf hd

/-- The letters and the digits can be told apart in the normal form, too. -/
theorem parts_normalForm (s : String) :
    (normalForm s).toList.takeWhile Char.isAlpha = (columnLetters s.toList).map Char.toUpper ∧
      (normalForm s).toList.dropWhile Char.isAlpha =
        Decimal.withoutZeros (rowDigits s.toList) := by
  have hletters : ∀ c ∈ (columnLetters s.toList).map Char.toUpper, c.isAlpha = true := by
    intro c hc
    obtain ⟨letter, hletter, rfl⟩ := List.mem_map.mp hc
    exact isAlpha_toUpper (isAlpha_columnLetters _ letter hletter)
  have hrest : Text.Stops Char.isAlpha (Decimal.withoutZeros (rowDigits s.toList)) :=
    stops_withoutZeros (Text.stops_dropWhile Char.isAlpha (Text.trim s.toList))
  rw [normalForm, String.toList_ofList]
  exact ⟨Text.takeWhile_append hletters hrest, Text.dropWhile_append hletters hrest⟩

/-- Texts with one normal form are read alike. -/
theorem ofReference?_congr {base : RowBase} {s t : String} (h : normalForm s = normalForm t) :
    ofReference? base s = ofReference? base t := by
  obtain ⟨hlettersS, hdigitsS⟩ := parts_normalForm s
  obtain ⟨hlettersT, hdigitsT⟩ := parts_normalForm t
  rw [h] at hlettersS hdigitsS
  have hvalue : lettersValue (columnLetters s.toList) = lettersValue (columnLetters t.toList) := by
    rw [← lettersValue_map_toUpper (isAlpha_columnLetters _), ← hlettersS, hlettersT,
      lettersValue_map_toUpper (isAlpha_columnLetters _)]
  have hrow : Decimal.readDigits? (rowDigits s.toList) =
      Decimal.readDigits? (rowDigits t.toList) := by
    rw [← Decimal.readDigits?_withoutZeros, ← hdigitsS, hdigitsT, Decimal.readDigits?_withoutZeros]
  refine Option.ext fun c => ?_
  rw [ofReference?, ofReference?, ofReferenceChars?_eq_some_iff, ofReferenceChars?_eq_some_iff,
    hvalue, hrow]

theorem reference?_normalForm {base : RowBase} {s : String} {c : Cell}
    (h : ofReference? base s = some c) : reference? base c = some (normalForm s) := by
  obtain ⟨hcol, hrow, -, hfits⟩ := ofReferenceChars?_eq_some_iff.mp h
  rw [reference?_eq_some_iff, normalForm, String.toList_ofList, ← hcol,
    lettersOf_lettersValue (isAlpha_columnLetters _), Decimal.digits_of_readDigits? hrow]
  exact ⟨hfits, rfl⟩

/-- What is written for a cell that has been read is the normal form of what was read. So the texts
that are read as this cell are those with the same normal form. -/
theorem reference?_ofReference? {base : RowBase} {s : String} {c : Cell}
    (h : ofReference? base s = some c) :
    reference? base c = some (normalForm s) ∧
      ∀ t, ofReference? base t = some c ↔ normalForm t = normalForm s := by
  refine ⟨reference?_normalForm h, fun t => ⟨fun ht => ?_, fun ht => ?_⟩⟩
  · have hsame := (reference?_normalForm ht).symm.trans (reference?_normalForm h)
    exact Option.some.inj hsame
  · rw [ofReference?_congr ht, h]

theorem reference?_ofReference?_zeros :
    ofReference? .one " aA007" = some ⟨26, 6⟩ ∧ reference? .one ⟨26, 6⟩ = some "AA7" ∧
      ofReference? .one "Aa07" = some ⟨26, 6⟩ := by
  have hread : ofReference? .one " aA007" = some ⟨26, 6⟩ := by decide +kernel
  obtain ⟨hwritten, hsame⟩ := reference?_ofReference? hread
  have hnormal : normalForm " aA007" = "AA7" := by decide +kernel
  exact ⟨hread, hnormal ▸ hwritten, (hsame "Aa07").mpr (by decide +kernel)⟩

end Cell

end Tabletop
