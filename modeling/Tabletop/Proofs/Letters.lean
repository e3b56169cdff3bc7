import Tabletop.Text.Blank
import Tabletop.Text.Letters

/-!
# Lower case has no capitals

The full lower case of a text is compared with other texts by folding the letters `A` to `Z`. It has
none of them, whatever the text is: no character outside ASCII has one as its lower case either.

* `Text.Folded`: a text that folding leaves as it is.
* `Text.toLower_of_mem_lowerFrom`: a character of a lower case is its own folding.
* `Text.folded_lowered`: a lower case is folded.
* `Text.isMark`: hyphens and white space have no case. A text begins with one of them exactly if its
  lower case does (`Text.head?_lower_of_isMark`, `Text.head?_of_head?_lower`).
-/

namespace Tabletop.Text

/-- Past `Z` no character is folded. -/
theorem toLower_of_le {c : Char} (h : 0x5B ≤ c.toNat) : c.toLower = c := by
  have hcapital : ¬ (c.val ≥ 'A'.val ∧ c.val ≤ 'Z'.val) := by
    rintro ⟨-, hle⟩
    have hle : c.toNat ≤ 90 := hle
    omega
  exact dif_neg hcapital

theorem toLower_toLower (c : Char) : c.toLower.toLower = c.toLower := by
  by_cases hcapital : c.val ≥ 'A'.val ∧ c.val ≤ 'Z'.val
  · refine toLower_of_le ?_
    have hrange : 65 ≤ c.val.toNat ∧ c.val.toNat ≤ 90 := hcapital
    have hsmall : ('a'.val - 'A'.val).toNat = 32 := rfl
    have hcode : c.toLower.toNat = (c.val + ('a'.val - 'A'.val)).toNat :=
      congrArg Char.toNat (dif_pos hcapital)
    rw [UInt32.toNat_add, hsmall] at hcode
    omega
  · have hself : c.toLower = c := dif_neg hcapital
    rw [hself, hself]

/-- What is no code gives the character zero. -/
theorem toNat_ofNat (n : Nat) : (Char.ofNat n).toNat = n ∨ (Char.ofNat n).toNat = 0 := by
  by_cases hvalid : n.isValidChar
  · rw [Char.ofNat, dif_pos hvalid]
    exact .inl rfl
  · rw [Char.ofNat, dif_neg hvalid]
    exact .inr rfl

/-- A code is folded only if it is that of a capital. -/
theorem toLower_ofNat {n : Nat} (h : 0x5B ≤ n) : (Char.ofNat n).toLower = Char.ofNat n := by
  rcases toNat_ofNat n with hcode | hzero
  · exact toLower_of_le (hcode.symm ▸ h)
  · have hnul : Char.ofNat n = Char.ofNat 0 := by rw [← Char.ofNat_toNat (Char.ofNat n), hzero]
    rw [hnul]
    rfl

/-! ## The tables -/

theorem lowerRuns_past_capitals : ∀ run ∈ lowerRuns, 0x5B ≤ (run.first : Int) + run.shift := by
  decide +kernel

theorem lowerExpansions_past_capitals : ∀ e ∈ lowerExpansions, ∀ n ∈ e.2, 0x5B ≤ n := by decide

theorem toLower_of_image? {run : CaseRun} (hrun : run ∈ lowerRuns) {c d : Char}
    (h : run.image? c = some d) : d.toLower = d := by
  have hpast := lowerRuns_past_capitals run hrun
  unfold CaseRun.image? at h
  dsimp only at h
  split at h
  · rename_i hin
    cases h
    have hfirst : run.first ≤ c.toNat := by
      simp only [Bool.and_eq_true, decide_eq_true_eq] at hin
      exact hin.1.1
    exact toLower_ofNat (by omega)
  · cases h

theorem toLower_of_mem_lowerChar {c d : Char} (h : d ∈ lowerChar c) : d.toLower = d := by
  unfold lowerChar mapCase at h
  split at h
  · rw [List.mem_singleton.mp h]
    exact toLower_toLower c
  · rename_i hascii
    split at h
    · rename_i several hfind
      obtain ⟨n, hn, rfl⟩ := List.mem_map.mp h
      exact toLower_ofNat
        (lowerExpansions_past_capitals _ (List.mem_of_find?_eq_some hfind) n hn)
    · rw [List.mem_singleton.mp h]
      cases hrun : lowerRuns.findSome? (·.image? c) with
      | none => exact toLower_of_le (by rw [Option.getD_none]; omega)
      | some d' =>
        obtain ⟨run, hmem, himage⟩ := List.exists_of_findSome?_eq_some hrun
        exact toLower_of_image? hmem himage

/-! ## Marks -/

def isMark (c : Char) : Bool := c == '-' || isBlank c

def markCodes : List Nat :=
  [9, 10, 11, 12, 13, 0x20, 0x2D, 0x85, 0xA0, 0x1680, 0x2000, 0x2001, 0x2002, 0x2003, 0x2004,
    0x2005, 0x2006, 0x2007, 0x2008, 0x2009, 0x200A, 0x2028, 0x2029, 0x202F, 0x205F, 0x3000]

theorem mem_markCodes {c : Char} (h : isMark c = true) : c.toNat ∈ markCodes := by
  rcases Bool.or_eq_true_iff.mp h with hhyphen | hblank
  · rw [eq_of_beq hhyphen]
    decide
  · simp only [isBlank, Bool.or_eq_true, Bool.and_eq_true, decide_eq_true_eq, beq_iff_eq] at hblank
    simp only [markCodes, List.mem_cons, List.not_mem_nil, or_false]
    omega

theorem lowerChar_of_isMark {c : Char} (h : isMark c = true) : lowerChar c = [c] := by
  have hall : ∀ n ∈ markCodes, lowerChar (Char.ofNat n) = [Char.ofNat n] := by decide +kernel
  have hc := hall c.toNat (mem_markCodes h)
  rwa [Char.ofNat_toNat] at hc

theorem lowerRuns_beside_marks : ∀ run ∈ lowerRuns, ∀ n ∈ markCodes,
    (n : Int) < run.first + run.shift ∨ run.last + run.shift < n := by
  decide +kernel

theorem lowerExpansions_beside_marks : ∀ e ∈ lowerExpansions,
    e.2 ≠ [] ∧ ∀ n ∈ e.2, isMark (Char.ofNat n) = false := by
  decide

theorem not_isMark_of_image? {run : CaseRun} (hrun : run ∈ lowerRuns) {c d : Char}
    (h : run.image? c = some d) : isMark d = false := by
  unfold CaseRun.image? at h
  dsimp only at h
  split at h
  · rename_i hin
    cases h
    simp only [Bool.and_eq_true, decide_eq_true_eq] at hin
    refine Bool.eq_false_iff.mpr fun hmark => ?_
    have hmem := mem_markCodes hmark
    rcases toNat_ofNat ((c.toNat : Int) + run.shift).toNat with hcode | hcode
    · rw [hcode] at hmem
      have hpast := lowerRuns_past_capitals run hrun
      have hbeside := lowerRuns_beside_marks run hrun _ hmem
      omega
    · rw [hcode] at hmem
      exact absurd hmem (by decide)
  · cases h

theorem toLower_eq_self_of_isMark {c : Char} (h : isMark c.toLower = true) : c.toLower = c := by
  by_cases hcapital : c.val ≥ 'A'.val ∧ c.val ≤ 'Z'.val
  · have hall : ∀ n < 26, isMark (Char.ofNat (0x41 + n)).toLower = false := by decide
    have hrange : 65 ≤ c.toNat ∧ c.toNat ≤ 90 := hcapital
    have hc := hall (c.toNat - 65) (by omega)
    rw [Nat.add_sub_cancel' hrange.1, Char.ofNat_toNat, h] at hc
    cases hc
  · exact dif_neg hcapital

/-- The lower case of a character begins with a mark only if the character is that mark. -/
theorem lowerChar_cases (c : Char) :
    ∃ d rest, lowerChar c = d :: rest ∧ (isMark d = true → d = c) := by
  unfold lowerChar mapCase
  split
  · exact ⟨_, [], rfl, toLower_eq_self_of_isMark⟩
  · split
    · rename_i several hfind
      obtain ⟨hsome, hmarks⟩ := lowerExpansions_beside_marks _ (List.mem_of_find?_eq_some hfind)
      obtain ⟨n, rest, rfl⟩ := List.exists_cons_of_ne_nil hsome
      refine ⟨_, _, List.map_cons, fun hmark => ?_⟩
      rw [hmarks n List.mem_cons_self] at hmark
      cases hmark
    · refine ⟨_, [], rfl, fun hmark => ?_⟩
      cases hrun : lowerRuns.findSome? (·.image? c) with
      | none => rfl
      | some d =>
        obtain ⟨run, hmem, himage⟩ := List.exists_of_findSome?_eq_some hrun
        rw [hrun, Option.getD_some, not_isMark_of_image? hmem himage] at hmark
        cases hmark

/-! ## Whole texts -/

theorem toLower_of_mem_lowerFrom {before cs : List Char} {d : Char}
    (h : d ∈ lowerFrom before cs) : d.toLower = d := by
  induction cs generalizing before with
  | nil => cases h
  | cons c rest ih =>
    rcases List.mem_append.mp h with h | h
    · split at h
      · rw [List.mem_singleton.mp h]
        split
        · rfl
        · rfl
      · exact toLower_of_mem_lowerChar h
    · exact ih h

/-- The text has none of the letters `A` to `Z`. -/
def Folded (s : String) : Prop := foldAscii s.toList = s.toList

instance (s : String) : Decidable (Folded s) :=
  inferInstanceAs (Decidable (foldAscii s.toList = s.toList))

theorem folded_lowered (s : String) : Folded (lowered s) := by
  rw [Folded, lowered, String.toList_ofList, foldAscii]
  refine (List.map_congr_left fun d hd => toLower_of_mem_lowerFrom hd).trans (List.map_id _)

theorem head?_lower_of_isMark {cs : List Char} {d : Char} (hd : isMark d = true)
    (h : cs.head? = some d) : (lower cs).head? = some d := by
  obtain ⟨rest, rfl⟩ := List.head?_eq_some_iff.mp h
  have hsigma : d ≠ capitalSigma := by
    rintro rfl
    exact absurd hd (by decide)
  rw [lower, lowerFrom, if_neg hsigma, lowerChar_of_isMark hd]
  rfl

theorem head?_of_head?_lower {cs : List Char} {d : Char} (hd : isMark d = true)
    (h : (lower cs).head? = some d) : cs.head? = some d := by
  cases cs with
  | nil => cases h
  | cons c rest =>
    rw [lower, lowerFrom] at h
    split at h
    · -- the forms of a small sigma are no marks
      rw [List.singleton_append, List.head?_cons, Option.some.injEq] at h
      rw [← h] at hd
      split at hd
      · exact absurd hd (by decide)
      · exact absurd hd (by decide)
    · obtain ⟨d', rest', hlower, hmark⟩ := lowerChar_cases c
      rw [hlower, List.cons_append, List.head?_cons, Option.some.injEq] at h
      subst h
      rw [List.head?_cons, hmark hd]

end Tabletop.Text
