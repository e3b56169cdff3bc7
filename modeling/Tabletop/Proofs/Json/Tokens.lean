import Mathlib.Data.List.TakeWhile
import Tabletop.Json.Printer
import Tabletop.Json.Reader
import Tabletop.Proofs.TokenId

/-!
# The tokens of a JSON text

The reader cuts a text into tokens, character by character. What the printer writes is cut as it was
put together:

* `characters?_escape`: what stands between quotation marks is read as the text that was quoted, and
  `lex_quote` reads it with its marks.
* `wordToken?_int`: a whole number of 64 bits is read from its digits. `isWord_scalarText_float`:
  the text of a fraction is one word, whatever its layout comes to.
* `lex_word`, `lex_mark` and `lex_newLine`: each part of a text is cut off at the front.
-/

namespace Tabletop

namespace Decimal

theorem takeWhile_isDigit_digits (n : Nat) : (digits n).takeWhile Char.isDigit = digits n :=
  List.takeWhile_eq_self_iff.mpr fun _ hc => isDigit_of_mem_digits hc

theorem dropWhile_isDigit_digits (n : Nat) : (digits n).dropWhile Char.isDigit = [] :=
  List.dropWhile_eq_nil_iff.mpr fun _ hc => isDigit_of_mem_digits hc

/-- Only zero is written with a zero in front. -/
theorem eq_zero_of_head?_digits {n : Nat} (h : (digits n).head? = some '0') : n = 0 := by
  induction n using Nat.strongRecOn with
  | ind n ih =>
    by_cases hsmall : n < 10
    · rw [digits, Nat.toDigits_of_lt_base hsmall, List.head?_cons, Option.some.injEq,
        Nat.digitChar_eq_zero] at h
      exact h
    · have hlarge : 10 ≤ n := Nat.le_of_not_lt hsmall
      rw [digits, Nat.toDigits_of_base_le (by decide) hlarge, ← digits,
        List.head?_append, Option.or_of_isSome (by simp [digits])] at h
      have := ih (n / 10) (by omega) h
      omega

end Decimal

namespace Json

/-! ## Quoted texts -/

theorem ofHex?_hexDigits {n : Nat} (h : n < 0x20) :
    Text.ofHex? ('0' :: '0' :: Text.hexDigits n 2) = some n := by
  have hall : ∀ n < 0x20, Text.ofHex? ('0' :: '0' :: Text.hexDigits n 2) = some n := by decide
  exact hall n h

theorem pieces?_shortEscape {e c : Char} (hc : shortEscape? e = some c) (hu : e ≠ 'u')
    (rest : List Char) : pieces? ('\\' :: e :: rest) = (pieces? rest).map (.char c :: ·) := by
  simp [pieces?, hc, hu]

theorem pieces?_unit {n : Nat} (h : n < 0x20) (rest : List Char) :
    pieces? (['\\', 'u', '0', '0'] ++ Text.hexDigits n 2 ++ rest) =
      (pieces? rest).map (.unit n :: ·) := by
  have hhex := ofHex?_hexDigits h
  simp only [Text.hexDigits, List.nil_append, List.cons_append] at hhex ⊢
  rw [pieces?, hhex]
  rfl

theorem pieces?_plain {c : Char} (hslash : c ≠ '\\') (hprinted : ¬ c.toNat < 0x20)
    (rest : List Char) : pieces? (c :: rest) = (pieces? rest).map (.char c :: ·) := by
  rw [pieces?, if_neg hprinted]
  all_goals simp [hslash]

theorem eq_ofNat_of_toNat_eq {c : Char} {n : Nat} (h : c.toNat = n) : c = Char.ofNat n := by
  rw [← h, Char.ofNat_toNat]

/-- An escape is read as one piece, which stands for the character that was escaped. -/
theorem pieces?_escapeChar (c : Char) (rest : List Char) :
    ∃ p, pieces? (escapeChar c ++ rest) = (pieces? rest).map (p :: ·) ∧
      ∀ ps, charactersFrom? none (p :: ps) = (charactersFrom? none ps).map (c :: ·) := by
  have short : ∀ {e : Char}, shortEscape? e = some c → e ≠ 'u' →
      ∃ p, pieces? (['\\', e] ++ rest) = (pieces? rest).map (p :: ·) ∧
        ∀ ps, charactersFrom? none (p :: ps) = (charactersFrom? none ps).map (c :: ·) :=
    fun hc hu => ⟨.char c, pieces?_shortEscape hc hu rest, fun _ => rfl⟩
  unfold escapeChar
  split
  · rename_i h
    exact short (by rw [h]; decide) (by decide)
  split
  · rename_i h
    exact short (by rw [h]; decide) (by decide)
  split
  · rename_i h
    exact short (by rw [eq_ofNat_of_toNat_eq h]; decide) (by decide)
  split
  · rename_i h
    exact short (by rw [h]; decide) (by decide)
  split
  · rename_i h
    exact short (by rw [h]; decide) (by decide)
  split
  · rename_i h
    exact short (by rw [eq_ofNat_of_toNat_eq h]; decide) (by decide)
  split
  · rename_i h
    exact short (by rw [h]; decide) (by decide)
  split
  · rename_i h
    refine ⟨.unit c.toNat, pieces?_unit h rest, fun ps => ?_⟩
    have hhigh : isHighSurrogate c.toNat = false := by
      simp only [isHighSurrogate, Bool.and_eq_false_iff, decide_eq_false_iff_not]
      omega
    have hlow : isLowSurrogate c.toNat = false := by
      simp only [isLowSurrogate, Bool.and_eq_false_iff, decide_eq_false_iff_not]
      omega
    rw [charactersFrom?, hhigh, hlow, Char.ofNat_toNat]
    rfl
  · rename_i hslash _ _ _ _ _ hprinted
    exact ⟨.char c, pieces?_plain hslash hprinted rest, fun _ => rfl⟩

/-- What is written between the marks is read as the text that was quoted. -/
theorem characters?_escape (cs : List Char) :
    ∃ ps, pieces? (escape cs) = some ps ∧ characters? ps = some cs := by
  induction cs with
  | nil => exact ⟨[], rfl, rfl⟩
  | cons c cs ih =>
    obtain ⟨ps, hps, hcs⟩ := ih
    obtain ⟨p, hp, hc⟩ := pieces?_escapeChar c (escape cs)
    refine ⟨p :: ps, ?_, ?_⟩
    · rw [escape, List.flatMap_cons, ← escape, hp, hps]
      rfl
    · rw [characters?, hc, ← characters?, hcs]
      rfl

/-! ## Whole numbers -/

/-- The digits of a number have the form that a numeral asks of its whole part. -/
theorem not_leadingZero_digits (n : Nat) : ((Decimal.digits n).isEmpty ||
    ((Decimal.digits n).head? == some '0' && (Decimal.digits n).length != 1)) = false := by
  rw [Bool.or_eq_false_iff, Bool.and_eq_false_iff]
  refine ⟨by simp [Decimal.digits], ?_⟩
  by_cases hzero : (Decimal.digits n).head? = some '0'
  · right
    rw [Decimal.eq_zero_of_head?_digits hzero]
    rfl
  · left
    simpa using hzero

theorem numeral?_digits (n : Nat) :
    numeral? (Decimal.digits n) = some ⟨false, Decimal.digits n, none, none⟩ := by
  unfold numeral?
  split
  rename_i negative cs h
  split at h
  · rename_i rest hcs
    have hfront : '-' ∈ Decimal.digits n := hcs ▸ List.mem_cons_self
    exact absurd rfl (Decimal.ne_of_mem_digits (by decide) hfront)
  · cases h
    rw [Decimal.takeWhile_isDigit_digits, Decimal.dropWhile_isDigit_digits]
    dsimp only
    rw [not_leadingZero_digits]
    rfl

theorem numeral?_neg_digits (n : Nat) :
    numeral? ('-' :: Decimal.digits n) = some ⟨true, Decimal.digits n, none, none⟩ := by
  unfold numeral?
  split
  rename_i negative cs h
  cases h
  rw [Decimal.takeWhile_isDigit_digits, Decimal.dropWhile_isDigit_digits]
  dsimp only
  rw [not_leadingZero_digits]
  rfl

theorem wordToken?_of_numeral? {w : List Char} {n : Numeral} (h : numeral? w = some n) :
    wordToken? w = some (.scalar n.value?) := by
  have hnot : ∀ w', numeral? w' = none → w ≠ w' := by
    rintro w' hw' rfl
    rw [h] at hw'
    cases hw'
  rw [wordToken?, if_neg (hnot _ rfl), if_neg (hnot _ rfl), if_neg (hnot _ rfl), h]
  rfl

theorem value?_digits {n : Nat} (h : n ≤ Decimal.word64) :
    Numeral.value? ⟨false, Decimal.digits n, none, none⟩ = some (.int n) := by
  have hsize : Nat.ofDigitChars 10 (Decimal.digits n) 0 = n := Nat.ofDigitChars_ten_toDigits
  simp [Numeral.value?, hsize, h]

theorem value?_neg_digits {n : Nat} (hpos : 0 < n) (h : n ≤ 0x8000000000000000) :
    Numeral.value? ⟨true, Decimal.digits n, none, none⟩ = some (.int (-n)) := by
  have hsize : Nat.ofDigitChars 10 (Decimal.digits n) 0 = n := Nat.ofDigitChars_ten_toDigits
  have hword : n ≤ Decimal.word64 := by
    simp only [Decimal.word64]
    omega
  simp [Numeral.value?, hsize, hword, hpos, h]

/-- A whole number of 64 bits is read from its digits. -/
theorem wordToken?_int {n : Int} (low : -0x8000000000000000 ≤ n) (high : n ≤ Decimal.word64) :
    wordToken? (scalarText (.int n)) = some (.scalar (some (.int n))) := by
  rw [scalarText, Int.toString_eq_repr, Int.repr_eq_if]
  split
  · rename_i hsign
    rw [Nat.repr_eq_ofList_toDigits, String.toList_ofList, ← Decimal.digits,
      wordToken?_of_numeral? (numeral?_digits _), value?_digits (by omega),
      Int.toNat_of_nonneg hsign]
  · rename_i hsign
    have hnat : ((-n).toNat : Int) = -n := Int.toNat_of_nonneg (by omega)
    rw [Nat.repr_eq_ofList_toDigits, String.toList_append, String.toList_ofList,
      String.toList_ofList, List.singleton_append, ← Decimal.digits,
      wordToken?_of_numeral? (numeral?_neg_digits _), value?_neg_digits (by omega) (by omega), hnat,
      Int.neg_neg]

/-! ## Words -/

/-- A word is one or more characters without which no word is at its end. -/
def IsWord (w : List Char) : Prop := w ≠ [] ∧ ∀ c ∈ w, isWordChar c = true

instance (w : List Char) : Decidable (IsWord w) :=
  @instDecidableAnd _ _ inferInstance (List.decidableBAll (fun c : Char => isWordChar c = true) w)

theorem isWordChar_of_isDigit {c : Char} (h : c.isDigit = true) : isWordChar c = true := by
  simp [isWordChar, Char.isAlphanum, h]

theorem IsWord.append {a b : List Char} (ha : IsWord a) (hb : ∀ c ∈ b, isWordChar c = true) :
    IsWord (a ++ b) :=
  ⟨by simp [ha.1], fun c hc => (List.mem_append.mp hc).elim (ha.2 c) (hb c)⟩

theorem isWord_digits (n : Nat) : IsWord (Decimal.digits n) :=
  ⟨Nat.toDigits_ne_nil, fun _ hc => isWordChar_of_isDigit (Decimal.isDigit_of_mem_digits hc)⟩

theorem isWord_scalarText_int (n : Int) : IsWord (scalarText (.int n)) := by
  rw [scalarText, Int.toString_eq_repr, Int.repr_eq_if]
  split
  · rw [Nat.repr_eq_ofList_toDigits, String.toList_ofList]
    exact isWord_digits _
  · rw [Nat.repr_eq_ofList_toDigits, String.toList_append, String.toList_ofList,
      String.toList_ofList]
    exact IsWord.append (by decide) (isWord_digits _).2

theorem isWordChar_zeros (n : Nat) : ∀ c ∈ Decimal.zeros n, isWordChar c = true := by
  intro c hc
  rw [List.eq_of_mem_replicate hc]
  decide

theorem isWord_positionalText {ds : List Char} (h : IsWord ds) (exponent : Int) :
    IsWord (numberLayout.positionalText ds exponent) := by
  have hpoint : isWordChar '.' = true := by decide
  have hzero : isWordChar '0' = true := by decide
  unfold Decimal.Layout.positionalText
  split
  · rw [List.append_assoc]
    refine h.append (List.forall_mem_append.mpr ⟨isWordChar_zeros _, ?_⟩)
    simp [numberLayout, hpoint, hzero]
  · dsimp only
    split
    · refine ⟨by simp, List.forall_mem_append.mpr ⟨fun c hc => h.2 c (List.mem_of_mem_take hc), ?_⟩⟩
      exact List.forall_mem_cons.mpr ⟨hpoint, fun c hc => h.2 c (List.mem_of_mem_drop hc)⟩
    · refine ⟨by simp, List.forall_mem_cons.mpr ⟨hzero, List.forall_mem_cons.mpr ⟨hpoint, ?_⟩⟩⟩
      exact List.forall_mem_append.mpr ⟨isWordChar_zeros _, h.2⟩

theorem isWord_scientificText {ds : List Char} (h : IsWord ds) (leading : Int) :
    IsWord (Decimal.Layout.scientificText ds leading) := by
  have hpoint : isWordChar '.' = true := by decide
  have hsign : isWordChar (if leading < 0 then '-' else '+') = true := by
    split
    · decide
    · decide
  unfold Decimal.Layout.scientificText
  refine IsWord.append ?_ (List.forall_mem_cons.mpr ⟨by decide, List.forall_mem_cons.mpr
    ⟨hsign, (isWord_digits _).2⟩⟩)
  split
  · obtain ⟨hd, hrest⟩ := List.forall_mem_cons.mp h.2
    exact ⟨by simp, List.forall_mem_cons.mpr ⟨hd, List.forall_mem_cons.mpr ⟨hpoint, hrest⟩⟩⟩
  · exact h

theorem isWord_sizeText (b : Decimal.Binary) : IsWord (numberLayout.sizeText b) := by
  unfold Decimal.Layout.sizeText
  split
  · exact isWord_positionalText (by decide) 0
  · dsimp only
    split
    · exact isWord_positionalText (isWord_digits _) _
    · exact isWord_scientificText (isWord_digits _) _

theorem isWord_scalarText_float (x : Float) : IsWord (scalarText (.float x)) := by
  rw [scalarText, Decimal.Layout.write]
  split
  · rename_i b _
    have hsize := isWord_sizeText b
    rw [String.toList_ofList]
    split
    · exact ⟨by simp, by simpa using ⟨by decide, hsize.2⟩⟩
    · exact hsize
  · split
    · decide
    · split
      · decide
      · decide

/-! ## Tokens of a text -/

/-- Inside of a quoted text, a character goes to the characters so far. -/
theorem lex_quoted_cons {c : Char} (hquote : c ≠ '"') (hslash : c ≠ '\\')
    (before rest : List Char) :
    lex (.quoted before) (c :: rest) = lex (.quoted (c :: before)) rest := by
  rw [lex, if_neg hquote, if_neg hslash]

theorem lex_quoted_append {cs : List Char} (h : ∀ c ∈ cs, c ≠ '"' ∧ c ≠ '\\')
    (before rest : List Char) :
    lex (.quoted before) (cs ++ rest) = lex (.quoted (cs.reverse ++ before)) rest := by
  induction cs generalizing before with
  | nil => rfl
  | cons c cs ih =>
    obtain ⟨hquote, hslash⟩ := h c List.mem_cons_self
    rw [List.cons_append, lex_quoted_cons hquote hslash,
      ih (fun c' hc' => h c' (List.mem_cons_of_mem c hc')), List.reverse_cons, List.append_assoc,
      List.singleton_append]

theorem mem_hexDigits {n : Nat} (h : n < 0x20) :
    ∀ c ∈ Text.hexDigits n 2, c ≠ '"' ∧ c ≠ '\\' := by
  have hall : ∀ n < 0x20, (Text.hexDigits n 2).all (fun c => c ≠ '"' ∧ c ≠ '\\') = true := by
    decide
  simpa using hall n h

/-- An escape goes to the characters so far as a whole. -/
theorem lex_escapeChar (c : Char) (before rest : List Char) :
    lex (.quoted before) (escapeChar c ++ rest) =
      lex (.quoted ((escapeChar c).reverse ++ before)) rest := by
  unfold escapeChar
  split
  · rfl
  split
  · rfl
  split
  · rfl
  split
  · rfl
  split
  · rfl
  split
  · rfl
  split
  · rfl
  split
  · rename_i h
    have hdigits : ∀ d ∈ '0' :: '0' :: Text.hexDigits c.toNat 2, d ≠ '"' ∧ d ≠ '\\' := by
      simpa using mem_hexDigits h
    exact lex_quoted_append hdigits ('u' :: '\\' :: before) rest
  · rename_i hquote hslash _ _ _ _ _ _
    exact lex_quoted_cons hquote hslash before rest

theorem lex_escape (cs before rest : List Char) :
    lex (.quoted before) (escape cs ++ rest) =
      lex (.quoted ((escape cs).reverse ++ before)) rest := by
  induction cs generalizing before with
  | nil => rfl
  | cons c cs ih =>
    rw [escape, List.flatMap_cons, ← escape, List.append_assoc, lex_escapeChar, ih,
      List.reverse_append, List.append_assoc]

theorem lex_quote (s : String) (rest : List Char) :
    lex .between (quote s ++ rest) = (lex .between rest).map (.text (some s) :: ·) := by
  obtain ⟨ps, hps, hcs⟩ := characters?_escape s.toList
  have hopen : lex .between (quote s ++ rest) =
      lex (.quoted []) (escape s.toList ++ '"' :: rest) := by
    rw [quote, List.cons_append, List.append_assoc, List.singleton_append, lex]
    simp [start?, isSpace]
  rw [hopen, lex_escape, List.append_nil, lex, if_pos rfl, List.reverse_reverse, hps]
  simp [hcs]

/-! ### Words, marks and white space -/

/-- A text before which a word is at its end. -/
def EndsWord (rest : List Char) : Prop := ∀ c ∈ rest.head?, isWordChar c = false

theorem endsWord_nil : EndsWord [] := by simp [EndsWord]

theorem endsWord_cons {c : Char} (h : isWordChar c = false) (rest : List Char) :
    EndsWord (c :: rest) := by simpa [EndsWord] using h

theorem lex_word_of_endsWord (before : List Char) {rest : List Char} (h : EndsWord rest) :
    lex (.word before) rest =
      (wordToken? before.reverse).bind fun t => (lex .between rest).map (t :: ·) := by
  cases rest with
  | nil =>
    have hend : lex (.word before) [] = (wordToken? before.reverse).map ([·]) := rfl
    rw [hend]
    cases wordToken? before.reverse with
    | none => rfl
    | some t => rfl
  | cons c rest =>
    have hnext : lex (.word before) (c :: rest) =
        if isWordChar c then lex (.word (c :: before)) rest
        else (wordToken? before.reverse).bind fun t => (start? c).bind fun begun =>
          (lex begun.2 rest).map (t :: begun.1 ++ ·) := rfl
    have hstart : lex .between (c :: rest) =
        (start? c).bind fun begun => (lex begun.2 rest).map (begun.1 ++ ·) := rfl
    rw [hnext, if_neg (by simp [h c rfl]), hstart]
    simp only [Option.map_bind, Function.comp_def, Option.map_map, List.cons_append]

theorem lex_word_append {w : List Char} (hw : ∀ c ∈ w, isWordChar c = true)
    (before rest : List Char) :
    lex (.word before) (w ++ rest) = lex (.word (w.reverse ++ before)) rest := by
  induction w generalizing before with
  | nil => rfl
  | cons c w ih =>
    rw [List.cons_append, lex, if_pos (hw c List.mem_cons_self),
      ih (fun c' hc' => hw c' (List.mem_cons_of_mem c hc')), List.reverse_cons, List.append_assoc,
      List.singleton_append]

theorem start?_of_isWordChar {c : Char} (h : isWordChar c = true) :
    start? c = some ([], .word [c]) := by
  have hspace : isSpace c = false := by
    rw [Bool.eq_false_iff]
    intro hspace
    simp only [isSpace, Bool.or_eq_true, beq_iff_eq] at hspace
    rcases hspace with ((rfl | rfl) | rfl) | rfl <;> cases h
  have hquote : c ≠ '"' := by
    rintro rfl
    cases h
  rw [start?, hspace, if_neg Bool.false_ne_true, if_neg hquote, if_pos h]

theorem lex_word {w : List Char} (hw : IsWord w) {rest : List Char} (hrest : EndsWord rest) :
    lex .between (w ++ rest) =
      (wordToken? w).bind fun t => (lex .between rest).map (t :: ·) := by
  obtain ⟨hne, hchars⟩ := hw
  cases w with
  | nil => exact absurd rfl hne
  | cons c w =>
    obtain ⟨hc, hw⟩ := List.forall_mem_cons.mp hchars
    rw [List.cons_append, lex, start?_of_isWordChar hc]
    simp only [Option.bind_eq_bind, Option.bind_some, List.nil_append, Option.map_id_fun', id]
    rw [lex_word_append hw, lex_word_of_endsWord _ hrest, List.reverse_append,
      List.reverse_reverse]
    rfl

theorem lex_space (rest : List Char) : lex .between (' ' :: rest) = lex .between rest := by
  rw [lex]
  simp [start?, isSpace]

theorem lex_newLine (depth : Nat) (rest : List Char) :
    lex .between (newLine depth ++ rest) = lex .between rest := by
  have hblanks : ∀ n, lex .between (List.replicate n ' ' ++ rest) = lex .between rest := by
    intro n
    induction n with
    | zero => rfl
    | succ n ih => rw [List.replicate_succ, List.cons_append, lex_space, ih]
  rw [newLine, List.cons_append, lex]
  simp [start?, isSpace, hblanks]

theorem endsWord_newLine (depth : Nat) (rest : List Char) : EndsWord (newLine depth ++ rest) :=
  endsWord_cons (by decide) _

theorem lex_mark {c : Char} {t : Token} (h : start? c = some ([t], .between)) (rest : List Char) :
    lex .between (c :: rest) = (lex .between rest).map (t :: ·) := by
  rw [lex, h]
  rfl

end Json

end Tabletop
