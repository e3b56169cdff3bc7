import Mathlib.Data.List.DropRight
import Tabletop.Text.Blank
import Tabletop.Text.Letters

/-!
# Ends, words and lines of a text

* `Stops`: a text does not begin with a character of a class. What was taken from the class before it
  is found again by `takeWhile_append` and `dropWhile_append`.
* `lastMark?` is the last character of a text that is not white space; `lastMark?_lines` finds it in
  the last line that has one.
* `trimStart_trimEnd`: it does not matter which end is trimmed first. `trim_of_ends`: what has no
  white space at its ends is left as it is.
* `words_append_cons` cuts a text at white space and its words with it. `upper_eq_map` is the upper
  case of ASCII letters.
* `lines_ofLines`: lines with their line ends put back are read as the same lines.
-/

namespace Tabletop.Text

/-! ## What a text begins with -/

/-- The text does not begin with a character of the class. -/
def Stops (p : Char → Bool) (cs : List Char) : Prop := ∀ c ∈ cs.head?, p c = false

section Front

variable {p : Char → Bool} {cs taken rest : List Char}

theorem stops_nil (p : Char → Bool) : Stops p [] := fun _ hc => nomatch hc

theorem stops_cons {c : Char} (h : p c = false) (cs : List Char) : Stops p (c :: cs) := by
  intro d hd
  rwa [← Option.some_inj.mp hd]

theorem Stops.append (h : Stops p cs) (hne : cs ≠ []) (rest : List Char) :
    Stops p (cs ++ rest) := by
  obtain ⟨c, cs, rfl⟩ := List.exists_cons_of_ne_nil hne
  exact stops_cons (h c rfl) _

theorem dropWhile_of_stops (h : Stops p cs) : cs.dropWhile p = cs := by
  cases cs with
  | nil => rfl
  | cons c cs => rw [List.dropWhile_cons, h c rfl, if_neg Bool.false_ne_true]

theorem takeWhile_of_stops (h : Stops p cs) : cs.takeWhile p = [] := by
  cases cs with
  | nil => rfl
  | cons c cs => rw [List.takeWhile_cons, h c rfl, if_neg Bool.false_ne_true]

theorem stops_dropWhile (p : Char → Bool) (cs : List Char) : Stops p (cs.dropWhile p) := by
  intro c hc
  have hhead := List.head?_dropWhile_not p cs
  rwa [Option.mem_def.mp hc] at hhead

theorem takeWhile_append (htaken : ∀ c ∈ taken, p c = true) (hrest : Stops p rest) :
    (taken ++ rest).takeWhile p = taken := by
  rw [List.takeWhile_append_of_pos htaken, takeWhile_of_stops hrest, List.append_nil]

theorem dropWhile_append (htaken : ∀ c ∈ taken, p c = true) (hrest : Stops p rest) :
    (taken ++ rest).dropWhile p = rest := by
  rw [List.dropWhile_append_of_pos htaken, dropWhile_of_stops hrest]

end Front

/-! ## The last character that is not white space -/

def lastMark? (cs : List Char) : Option Char := cs.reverse.find? (!isBlank ·)

theorem lastMark?_append (a b : List Char) :
    lastMark? (a ++ b) = (lastMark? b).or (lastMark? a) := by
  rw [lastMark?, List.reverse_append, List.find?_append]
  rfl

theorem lastMark?_cons (c : Char) (cs : List Char) :
    lastMark? (c :: cs) = (lastMark? cs).or (lastMark? [c]) :=
  lastMark?_append [c] cs

theorem getLast?_trimEnd (cs : List Char) : (trimEnd cs).getLast? = lastMark? cs := by
  rw [trimEnd, List.getLast?_reverse, lastMark?, List.find?_eq_head?_dropWhile_not]
  simp only [Bool.not_not]

theorem isBlank_of_lastMark? {cs : List Char} {c : Char} (h : lastMark? cs = some c) :
    isBlank c = false := by
  simpa using List.find?_some h

/-! ## Trimming -/

theorem trimEnd_cons (c : Char) (cs : List Char) :
    trimEnd (c :: cs) =
      if (trimEnd cs).isEmpty && isBlank c then [] else c :: trimEnd cs := by
  rw [trimEnd, List.reverse_cons, List.dropWhile_append, trimEnd]
  cases hrest : cs.reverse.dropWhile isBlank with
  | nil =>
    cases hc : isBlank c with
    | true => simp [hc]
    | false => simp [hc]
  | cons d ds => simp

theorem trimStart_cons (c : Char) (cs : List Char) :
    trimStart (c :: cs) = if isBlank c then trimStart cs else c :: cs :=
  List.dropWhile_cons

theorem trimStart_trimEnd (cs : List Char) : trimStart (trimEnd cs) = trim cs := by
  rw [trim]
  induction cs with
  | nil => rfl
  | cons c cs ih =>
    rw [trimEnd_cons, trimStart_cons]
    cases hc : isBlank c with
    | false =>
      rw [Bool.and_false, if_neg Bool.false_ne_true, if_neg Bool.false_ne_true, trimStart_cons, hc,
        if_neg Bool.false_ne_true, trimEnd_cons, hc, Bool.and_false, if_neg Bool.false_ne_true]
    | true =>
      rw [Bool.and_true, if_pos rfl, ← ih]
      split
      · rename_i hempty
        rw [List.isEmpty_iff.mp hempty]
      · rw [trimStart_cons, hc, if_pos rfl]

theorem trimEnd_trimEnd (cs : List Char) : trimEnd (trimEnd cs) = trimEnd cs := by
  rw [trimEnd, trimEnd, List.reverse_reverse, List.dropWhile_idempotent]

theorem trim_trimEnd (cs : List Char) : trim (trimEnd cs) = trim cs := by
  rw [trim, trimStart_trimEnd, trim, trimEnd_trimEnd]

theorem trim_trim (cs : List Char) : trim (trim cs) = trim cs := by
  rw [trim, trim, trimStart_trimEnd, trim, trimEnd_trimEnd, trimStart, trimStart,
    List.dropWhile_idempotent]

theorem trim_sublist (cs : List Char) : (trim cs).Sublist cs := by
  have hend : (trimEnd (trimStart cs)).Sublist (trimStart cs) := by
    rw [trimEnd, ← List.reverse_sublist, List.reverse_reverse]
    exact List.dropWhile_sublist _
  exact hend.trans (List.dropWhile_sublist _)

/-- Trimming takes white space away. -/
theorem exists_append_of_trimEnd (cs : List Char) :
    ∃ blanks, cs = trimEnd cs ++ blanks ∧ ∀ c ∈ blanks, isBlank c = true := by
  refine ⟨(cs.reverse.takeWhile isBlank).reverse, ?_, ?_⟩
  · rw [trimEnd, ← List.reverse_append, List.takeWhile_append_dropWhile, List.reverse_reverse]
  · intro c hc
    exact List.mem_takeWhile_imp (List.mem_reverse.mp hc)

theorem isBlank_of_getLast?_trim {cs : List Char} {c : Char} (h : (trim cs).getLast? = some c) :
    isBlank c = false := by
  rw [trim, getLast?_trimEnd] at h
  exact isBlank_of_lastMark? h

theorem isBlank_of_head?_trim {cs : List Char} {c : Char} (h : (trim cs).head? = some c) :
    isBlank c = false := by
  rw [← trimStart_trimEnd] at h
  have hfind : (trimEnd cs).find? (!isBlank ·) = some c := by
    rw [List.find?_eq_head?_dropWhile_not]
    simp only [Bool.not_not]
    exact h
  simpa using List.find?_some hfind

/-- A text without white space at its ends. -/
theorem trim_of_ends {cs : List Char} (hfirst : Stops isBlank cs)
    (hlast : ∀ c ∈ cs.getLast?, isBlank c = false) : trim cs = cs := by
  have hreverse : Stops isBlank cs.reverse := by
    rwa [Stops, List.head?_reverse]
  rw [trim, trimStart, dropWhile_of_stops hfirst, trimEnd, dropWhile_of_stops hreverse,
    List.reverse_reverse]

theorem trim_eq_self {cs : List Char} (h : ∀ c ∈ cs, isBlank c = false) : trim cs = cs :=
  trim_of_ends (fun c hc => h c (List.mem_of_head? hc)) fun c hc => h c (List.mem_of_getLast? hc)

/-! ## Words -/

theorem words_append_cons {c : Char} (h : isBlank c = true) (before after : List Char) :
    words (before ++ c :: after) = words before ++ words after := by
  rw [words, List.splitOnP_append_cons _ _ h, List.filter_append, words, words]

theorem words_cons {c : Char} (h : isBlank c = true) (cs : List Char) :
    words (c :: cs) = words cs :=
  words_append_cons h [] cs

theorem words_trimStart (cs : List Char) : words (trimStart cs) = words cs := by
  induction cs with
  | nil => rfl
  | cons c cs ih =>
    rw [trimStart_cons]
    split
    · rename_i hc
      rw [words_cons hc, ih]
    · rfl

theorem words_append_blanks (cs : List Char) {blanks : List Char}
    (h : ∀ c ∈ blanks, isBlank c = true) : words (cs ++ blanks) = words cs := by
  induction blanks generalizing cs with
  | nil => rw [List.append_nil]
  | cons c blanks ih =>
    rw [words_append_cons (h c List.mem_cons_self)]
    have hnone := ih [] fun d hd => h d (List.mem_cons_of_mem c hd)
    rw [List.nil_append] at hnone
    rw [hnone]
    exact List.append_nil _

theorem words_trimEnd (cs : List Char) : words (trimEnd cs) = words cs := by
  obtain ⟨blanks, hcs, hblanks⟩ := exists_append_of_trimEnd cs
  conv_rhs => rw [hcs]
  exact (words_append_blanks _ hblanks).symm

theorem words_trim (cs : List Char) : words (trim cs) = words cs := by
  rw [trim, words_trimEnd, words_trimStart]

theorem words_eq_singleton {cs : List Char} (hne : cs ≠ [])
    (h : ∀ c ∈ cs, isBlank c = false) : words cs = [cs] := by
  have hkept : cs.isEmpty = false := List.isEmpty_eq_false_iff.mpr hne
  rw [words, List.splitOnP_eq_singleton h, List.filter_cons, hkept]
  rfl

/-- The last of the blanks of a text cuts it in two. -/
theorem exists_last_blank (cs : List Char) :
    (∀ c ∈ cs, isBlank c = false) ∨
      ∃ before c after, cs = before ++ c :: after ∧ isBlank c = true ∧
        ∀ d ∈ after, isBlank d = false := by
  induction cs using List.reverseRecOn with
  | nil => exact .inl fun _ hc => absurd hc List.not_mem_nil
  | append_singleton cs d ih =>
    cases hd : isBlank d with
    | true => exact .inr ⟨cs, d, [], rfl, hd, fun _ hc => absurd hc List.not_mem_nil⟩
    | false =>
      rcases ih with hall | ⟨before, c, after, rfl, hc, hafter⟩
      · refine .inl fun e he => ?_
        rcases List.mem_append.mp he with he | he
        · exact hall e he
        · rw [List.mem_singleton.mp he, hd]
      · refine .inr ⟨before, c, after ++ [d], by rw [List.append_assoc, List.cons_append], hc,
          fun e he => ?_⟩
        rcases List.mem_append.mp he with he | he
        · exact hafter e he
        · rw [List.mem_singleton.mp he, hd]

/-- A character at the end of a text makes a word of its own or belongs to the last word. -/
theorem mem_of_mem_words_append {cs word : List Char} {d : Char} (hd : isBlank d = false)
    (h : word ∈ words (cs ++ [d])) (hword : d ∉ word) : word ∈ words cs := by
  have hlast : ∀ rest, (∀ c ∈ rest, isBlank c = false) → words (rest ++ [d]) = [rest ++ [d]] := by
    intro rest hrest
    refine words_eq_singleton (by simp) fun c hc => ?_
    rcases List.mem_append.mp hc with hc | hc
    · exact hrest c hc
    · rw [List.mem_singleton.mp hc, hd]
  rcases exists_last_blank cs with hall | ⟨before, c, after, rfl, hc, hafter⟩
  · rw [hlast cs hall, List.mem_singleton] at h
    exact absurd (h ▸ List.mem_concat_self) hword
  · rw [List.append_assoc, List.cons_append, words_append_cons hc, hlast after hafter] at h
    rw [words_append_cons hc]
    rcases List.mem_append.mp h with h | h
    · exact List.mem_append_left _ h
    · exact absurd (List.mem_singleton.mp h ▸ List.mem_concat_self) hword

/-! ## Letters -/

theorem isAlpha_iff {c : Char} :
    c.isAlpha = true ↔ (65 ≤ c.toNat ∧ c.toNat ≤ 90) ∨ (97 ≤ c.toNat ∧ c.toNat ≤ 122) := by
  have hupper : c.isUpper = true ↔ 65 ≤ c.toNat ∧ c.toNat ≤ 90 :=
    decide_eq_true_iff (p := 'A'.val ≤ c.val ∧ c.val ≤ 'Z'.val)
  have hlower : c.isLower = true ↔ 97 ≤ c.toNat ∧ c.toNat ≤ 122 := by
    refine Bool.and_eq_true_iff.trans (and_congr ?_ ?_)
    · exact decide_eq_true_iff (p := 'a'.val ≤ c.val)
    · exact decide_eq_true_iff (p := c.val ≤ 'z'.val)
  exact Bool.or_eq_true_iff.trans (or_congr hupper hlower)

theorem toUpper_eq_self {c : Char} (h : ¬ (97 ≤ c.toNat ∧ c.toNat ≤ 122)) : c.toUpper = c :=
  dif_neg h

/-- Only ASCII letters become ASCII letters. -/
theorem toNat_lt_of_toUpper {c : Char} (h : c.toUpper.toNat < 0x80) : c.toNat < 0x80 := by
  by_contra hge
  rw [toUpper_eq_self (by omega)] at h
  exact hge h

/-- White space has no case. -/
theorem toUpper_of_isBlank {c : Char} (h : isBlank c = true) : c.toUpper = c := by
  refine toUpper_eq_self fun hletter => ?_
  simp [isBlank] at h
  omega

theorem upper_eq_map {cs : List Char} (h : ∀ c ∈ cs, c.toNat < 0x80) :
    upper cs = cs.map Char.toUpper := by
  induction cs with
  | nil => rfl
  | cons c cs ih =>
    have hc : upperChar c = [c.toUpper] := if_pos (h c List.mem_cons_self)
    rw [upper, List.flatMap_cons, hc, ← upper, ih fun d hd => h d (List.mem_cons_of_mem c hd)]
    rfl

/-! ## Lines -/

theorem eq_nil_of_lines {cs : List Char} (h : lines cs = []) : cs = [] := by
  induction cs using lines.induct with
  | case1 => rfl
  | case2 rest ih => cases h
  | case3 rest ih => cases h
  | case4 c rest hfeed hreturn hlines ih =>
    rw [lines, hlines] at h
    cases h
    all_goals assumption
  | case5 c rest hfeed hreturn line others hlines ih =>
    rw [lines, hlines] at h
    cases h
    all_goals assumption

theorem lastMark?_lines (cs : List Char) :
    lastMark? cs = (lines cs).reverse.findSome? lastMark? := by
  induction cs using lines.induct with
  | case1 => rfl
  | case2 rest ih =>
    rw [lines, lastMark?_cons, ih, List.reverse_cons, List.findSome?_append]
    rfl
  | case3 rest ih =>
    rw [lines, lastMark?_cons, lastMark?_cons, ih, List.reverse_cons, List.findSome?_append,
      Option.or_assoc]
    rfl
  | case4 c rest hfeed hreturn hlines ih =>
    rw [lines, hlines, eq_nil_of_lines hlines]
    · exact List.findSome?_singleton.symm
    all_goals assumption
  | case5 c rest hfeed hreturn line others hlines ih =>
    rw [hlines, List.reverse_cons, List.findSome?_append, List.findSome?_singleton] at ih
    rw [lines, hlines]
    · rw [List.reverse_cons, List.findSome?_append, List.findSome?_singleton, lastMark?_cons, ih,
        lastMark?_cons c line, Option.or_assoc]
    all_goals assumption

/-- A text of one line. -/
theorem lines_of_not_mem {cs : List Char} (hne : cs ≠ []) (h : '\n' ∉ cs) : lines cs = [cs] := by
  induction cs using lines.induct with
  | case1 => exact absurd rfl hne
  | case2 rest ih => exact absurd List.mem_cons_self h
  | case3 rest ih => exact absurd (List.mem_cons_of_mem _ List.mem_cons_self) h
  | case4 c rest hfeed hreturn hlines ih =>
    rw [lines, hlines, eq_nil_of_lines hlines]
    all_goals assumption
  | case5 c rest hfeed hreturn line others hlines ih =>
    have hrest : rest ≠ [] := by
      rintro rfl
      cases hlines
    rw [lines, ih hrest fun hmem => h (List.mem_cons_of_mem c hmem)]
    all_goals assumption

/-- Every line with a line end. -/
def ofLines (ls : List (List Char)) : List Char := ls.flatMap (· ++ ['\r', '\n'])

theorem lines_append_end {line : List Char} (h : '\n' ∉ line) (rest : List Char) :
    lines (line ++ '\r' :: '\n' :: rest) = line :: lines rest := by
  induction line with
  | nil => rfl
  | cons c line ih =>
    rw [List.mem_cons, not_or] at h
    rw [List.cons_append, lines, ih h.2]
    · exact Ne.symm h.1
    · intro after _ hafter
      cases line with
      | nil => cases hafter
      | cons d line =>
        rw [List.cons_append, List.cons.injEq] at hafter
        exact h.2 (List.mem_cons.mpr (.inl hafter.1.symm))

theorem lines_ofLines {ls : List (List Char)} (h : ∀ line ∈ ls, '\n' ∉ line) :
    lines (ofLines ls) = ls := by
  induction ls with
  | nil => rfl
  | cons line ls ih =>
    rw [ofLines, List.flatMap_cons, List.append_assoc]
    exact (lines_append_end (h line List.mem_cons_self) _).trans
      (congrArg _ (ih fun line' hmem => h line' (List.mem_cons_of_mem line hmem)))

end Tabletop.Text
