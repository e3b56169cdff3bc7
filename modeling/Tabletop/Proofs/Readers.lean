import Mathlib.Data.List.TakeWhile
import Tabletop.Proofs.Text
import Tabletop.Script.Terminals

/-!
# Readers and what follows

What a reader takes depends on the first character behind it.

* `Yields`: what holds of everything that a reader takes, part by part.
* `run?_eq_some_iff` is all there is to a run of characters.
* `leadingWord` is the word in front of a text, in upper case. A keyword that is read is that word
  (`leadingWord_of_keyword?`), so that no two keywords are read from one text.
* `IsCode` and `IsReference`: what is read as a whole. It is read between blanks, too.
* `Repeats`: readings one after the other as a relation; `Repeats.many` and `Repeats.separated?`.
-/

namespace Tabletop.Script

open Text

/-! ## What is read -/

/-- What has been read, if anything, satisfies `P`. -/
def Yields {α : Type} (P : α → Prop) (read : Option (α × List Char)) : Prop :=
  ∀ a rest, read = some (a, rest) → P a

namespace Yields

variable {α β : Type} {P : α → Prop} {Q : β → Prop}

theorem done {read : Option (α × List Char)} {a : α} {rest : List Char}
    (hread : read = some (a, rest)) (h : P a) : Yields P read := by
  rintro _ _ hread'
  cases hread.symm.trans hread'
  exact h

theorem bind {read : Option β} {next : β → Option (α × List Char)} (h : ∀ b, Yields P (next b)) :
    Yields P (read >>= next) := by
  intro a rest hread
  obtain ⟨b, -, hb⟩ := Option.bind_eq_some_iff.mp hread
  exact h b a rest hb

/-- What is known of the first part is known while the next one is read. -/
theorem andThen {read : Option (β × List Char)} {next : β × List Char → Option (α × List Char)}
    (hread : Yields Q read) (h : ∀ b rest, Q b → Yields P (next (b, rest))) :
    Yields P (read >>= next) := by
  intro a rest hnext
  obtain ⟨⟨b, after⟩, hb, ha⟩ := Option.bind_eq_some_iff.mp hnext
  exact h b after (hread b after hb) a rest ha

theorem orElse {first second : Option (α × List Char)} (hfirst : Yields P first)
    (hsecond : Yields P second) : Yields P (first <|> second) := by
  cases first with
  | none => exact hsecond
  | some read => exact hfirst

end Yields

/-! ## Runs of characters -/

theorem run?_eq_some_iff {p : Char → Bool} {cs taken rest : List Char} :
    run? p cs = some (taken, rest) ↔
      taken ≠ [] ∧ (∀ c ∈ taken, p c = true) ∧ Stops p rest ∧ cs = taken ++ rest := by
  rw [run?, Option.ite_none_left_eq_some, Option.some_inj, Prod.mk.injEq]
  constructor
  · rintro ⟨hne, rfl, rfl⟩
    exact ⟨by simpa using hne, fun _ => List.mem_takeWhile_imp, stops_dropWhile p cs,
      List.takeWhile_append_dropWhile.symm⟩
  · rintro ⟨hne, htaken, hrest, rfl⟩
    rw [takeWhile_append htaken hrest, dropWhile_append htaken hrest]
    exact ⟨by simpa using hne, rfl, rfl⟩

/-! ## Blanks -/

theorem skip_append {gap : List Char} (h : ∀ c ∈ gap, isGap c = true) (cs : List Char) :
    skip (gap ++ cs) = skip cs :=
  List.dropWhile_append_of_pos h

theorem skip_cons {c : Char} (h : isGap c = true) (cs : List Char) : skip (c :: cs) = skip cs :=
  List.dropWhile_cons_of_pos h

theorem skip_of_stops {cs : List Char} (h : Stops isGap cs) : skip cs = cs := dropWhile_of_stops h

theorem skip_suffix (cs : List Char) : skip cs <:+ cs := List.dropWhile_suffix _

theorem isBlank_of_isGap {c : Char} (h : isGap c = true) : isBlank c = true := by
  rw [isGap, Bool.or_eq_true, beq_iff_eq, beq_iff_eq] at h
  rcases h with rfl | rfl
  · rfl
  · rfl

/-! ## Marks -/

theorem mark?_of_skip {mark : Char} {cs rest : List Char} (h : skip cs = mark :: rest) :
    mark? mark cs = some rest := by
  rw [mark?, h]
  exact if_pos rfl

theorem mark?_eq_none {mark : Char} {cs : List Char} (h : (skip cs).head? ≠ some mark) :
    mark? mark cs = none := by
  rw [mark?]
  cases hcs : skip cs with
  | nil => rfl
  | cons c rest =>
    rw [hcs] at h
    exact if_neg fun heq => h (congrArg some heq)

theorem dropComma_suffix (cs : List Char) : dropComma cs <:+ cs := by
  rw [dropComma, mark?]
  split
  · rename_i c rest hskip
    split
    · exact (List.suffix_cons c rest).trans (hskip ▸ skip_suffix cs)
    · exact List.suffix_rfl
  · exact List.suffix_rfl

/-! ## Keywords -/

theorem word?_eq_some {word cs rest : List Char} (h : word? word cs = some rest) :
    ∃ front, cs = front ++ rest ∧ front.map Char.toUpper = word := by
  induction word generalizing cs with
  | nil =>
    cases h
    exact ⟨[], rfl, rfl⟩
  | cons w word ih =>
    cases cs with
    | nil => cases h
    | cons c cs =>
      rw [word?] at h
      split at h
      · rename_i hc
        obtain ⟨front, hfront, hword⟩ := ih h
        exact ⟨c :: front, by rw [hfront, List.cons_append], by rw [List.map_cons, hc, hword]⟩
      · cases h

theorem word?_self (cs : List Char) : word? (cs.map Char.toUpper) cs = some [] := by
  induction cs with
  | nil => rfl
  | cons c cs ih => rw [List.map_cons, word?, if_pos rfl, ih]

theorem isIdentChar_of_toUpper {c : Char} (h : isIdentChar c.toUpper = true) :
    isIdentChar c = true := by
  by_cases hletter : 97 ≤ c.toNat ∧ c.toNat ≤ 122
  · have halphanum : c.isAlphanum = true :=
      Bool.or_eq_true_iff.mpr (.inl (isAlpha_iff.mpr (.inr hletter)))
    exact Bool.or_eq_true_iff.mpr (.inl halphanum)
  · rwa [toUpper_eq_self hletter] at h

/-- The word in front of a text, in upper case. -/
def leadingWord (cs : List Char) : List Char :=
  ((skip cs).takeWhile isIdentChar).map Char.toUpper

theorem leadingWord_of_keyword? {name : String} (hname : ∀ c ∈ name.toList, isIdentChar c = true)
    {cs rest : List Char} (h : keyword? name cs = some rest) : leadingWord cs = name.toList := by
  obtain ⟨hword, hends⟩ := Option.filter_eq_some_iff.mp h
  obtain ⟨front, hfront, hupper⟩ := word?_eq_some hword
  have hident : ∀ c ∈ front, isIdentChar c = true := fun c hc =>
    isIdentChar_of_toUpper (hname _ (hupper ▸ List.mem_map_of_mem hc))
  have hstops : Stops isIdentChar rest := by
    cases rest with
    | nil => exact stops_nil _
    | cons c rest => exact stops_cons (by simpa [endsWord] using hends) rest
  rw [leadingWord, hfront, takeWhile_append hident hstops, hupper]

/-- The word in front tells which keyword is read. -/
theorem keyword?_eq_none {name : String} (hname : ∀ c ∈ name.toList, isIdentChar c = true)
    {cs : List Char} (h : leadingWord cs ≠ name.toList) : keyword? name cs = none :=
  Option.eq_none_iff_forall_ne_some.mpr fun _ hread => h (leadingWord_of_keyword? hname hread)

/-! ## Codes and references -/

/-- A text on one line that is read as a code, with nothing left of it. -/
structure IsCode (code : String) : Prop where
  whole : '\n' ∉ code.toList
  read : code? code.toList = some (code.toList, [])

/-- A text on one line that is read as the reference of a token, with nothing left of it. -/
structure IsReference (id : String) : Prop where
  whole : '\n' ∉ id.toList
  read : reference? id.toList = some (id.toList, [])

instance (code : String) : Decidable (IsCode code) :=
  decidable_of_iff ('\n' ∉ code.toList ∧ code? code.toList = some (code.toList, []))
    ⟨fun ⟨h₁, h₂⟩ => ⟨h₁, h₂⟩, fun ⟨h₁, h₂⟩ => ⟨h₁, h₂⟩⟩

instance (id : String) : Decidable (IsReference id) :=
  decidable_of_iff ('\n' ∉ id.toList ∧ reference? id.toList = some (id.toList, []))
    ⟨fun ⟨h₁, h₂⟩ => ⟨h₁, h₂⟩, fun ⟨h₁, h₂⟩ => ⟨h₁, h₂⟩⟩

theorem IsCode.between_gaps {code : String} (h : IsCode code) {a b : Char} (ha : isGap a = true)
    (hb : isGap b = true) (rest : List Char) :
    code? (a :: (code.toList ++ b :: rest)) = some (code.toList, b :: rest) := by
  obtain ⟨hne, hall, -, -⟩ := run?_eq_some_iff.mp h.read
  have hgap : Stops isGap code.toList := fun c hc => by
    have hcode := hall c (List.mem_of_head? hc)
    simp only [isCodeChar, isItemChar, Bool.and_eq_true, Bool.not_eq_true'] at hcode
    exact hcode.1.1.1
  have hstops : isCodeChar b = false := by simp [isCodeChar, isItemChar, hb]
  rw [code?, skip_cons ha, skip_of_stops (hgap.append hne _)]
  exact run?_eq_some_iff.mpr ⟨hne, hall, stops_cons hstops rest, rfl⟩

theorem spanReference_append (cs : List Char) :
    (spanReference cs).1 ++ (spanReference cs).2 = cs := by
  induction cs using spanReference.induct with
  | case1 => rfl
  | case2 rest => rfl
  | case3 c rest harrow hc taken left hspan ih =>
    rw [spanReference, if_pos hc, hspan, List.cons_append]
    · rw [hspan] at ih
      exact congrArg (c :: ·) ih
    · exact harrow
  | case4 c rest harrow hc =>
    rw [spanReference, if_neg hc]
    · rfl
    · exact harrow

/-- A reference ends before a blank. -/
theorem spanReference_before_gap {id : List Char} (h : (spanReference id).2 = []) {c : Char}
    (hc : isGap c = true) (rest : List Char) :
    spanReference (id ++ c :: rest) = (id, c :: rest) := by
  have hmark : c ≠ '-' ∧ c ≠ '>' := by
    rw [isGap, Bool.or_eq_true, beq_iff_eq, beq_iff_eq] at hc
    rcases hc with rfl | rfl
    · decide
    · decide
  induction id using spanReference.induct with
  | case1 =>
    rw [List.nil_append, spanReference, if_neg (by simp [isItemChar, hc])]
    exact fun _ hhyphen _ => hmark.1 hhyphen
  | case2 id => cases h
  | case3 d id harrow hd taken left hspan ih =>
    rw [spanReference, if_pos hd, hspan] at h
    · rw [List.cons_append, spanReference, if_pos hd, ih (by rw [hspan]; exact h)]
      -- the arrow would be in the reference or the mark behind it
      intro after hhyphen hafter
      cases id with
      | nil => exact hmark.2 (List.cons.inj hafter).1
      | cons e id =>
        obtain ⟨rfl, -⟩ := List.cons.inj hafter
        exact harrow id hhyphen rfl
    · exact harrow
  | case4 d id harrow hd =>
    rw [spanReference, if_neg hd] at h
    · cases h
    · exact harrow

theorem IsReference.between_gaps {id : String} (h : IsReference id) {a b : Char}
    (ha : isGap a = true) (hb : isGap b = true) (rest : List Char) :
    reference? (a :: (id.toList ++ b :: rest)) = some (id.toList, b :: rest) := by
  have hread := h.read
  rw [reference?, Option.ite_none_left_eq_some] at hread
  obtain ⟨hne, hid⟩ := hread
  obtain ⟨htaken, hleft⟩ := Prod.mk.inj (Option.some.inj hid)
  have hskip : skip id.toList = id.toList := by
    rw [← spanReference_append (skip id.toList), htaken, hleft, List.append_nil]
  have hgap : Stops isGap id.toList := hskip ▸ stops_dropWhile isGap id.toList
  rw [htaken] at hne
  rw [hskip] at hleft
  rw [reference?, skip_cons ha, skip_of_stops (hgap.append (by simpa using hne) _),
    spanReference_before_gap hleft hb]
  exact if_neg hne

/-! ## Repetition -/

section Repetition

variable {α : Type} {read : Reader α} {cs rest last : List Char} {a : α} {as : List α}

/-- Readings one after the other, each of which takes something, up to a front that is not
recognised. -/
inductive Repeats (read : Reader α) : List Char → List α → List Char → Prop where
  | done {cs : List Char} (h : read cs = none) : Repeats read cs [] cs
  | next {cs rest last : List Char} {a : α} {as : List α} (h : read cs = some (a, rest))
      (hless : rest.length < cs.length) (hrest : Repeats read rest as last) :
      Repeats read cs (a :: as) last

theorem Repeats.manyFrom (h : Repeats read cs as last) {fuel : Nat} (hfuel : cs.length ≤ fuel) :
    manyFrom read fuel cs = (as, last) := by
  induction h generalizing fuel with
  | done hnone =>
    cases fuel with
    | zero => rfl
    | succ fuel => rw [Script.manyFrom, hnone]
  | next hread hless _ ih =>
    cases fuel with
    | zero => omega
    | succ fuel =>
      rw [Script.manyFrom, hread]
      dsimp only
      rw [ih (by omega)]

theorem Repeats.many (h : Repeats read cs as last) : many read cs = (as, last) :=
  h.manyFrom (Nat.le_refl _)

theorem forall_manyFrom {P : α → Prop} (h : ∀ cs, Yields P (read cs)) (fuel : Nat)
    (cs : List Char) : ∀ a ∈ (manyFrom read fuel cs).1, P a := by
  induction fuel generalizing cs with
  | zero => exact fun _ hmem => nomatch hmem
  | succ fuel ih =>
    rw [manyFrom]
    cases hread : read cs with
    | none => exact fun _ hmem => nomatch hmem
    | some taken => exact List.forall_mem_cons.mpr ⟨h cs taken.1 taken.2 hread, ih taken.2⟩

theorem yields_separated {P : α → Prop} (h : ∀ cs, Yields P (read cs)) (cs : List Char) :
    Yields (fun as => as ≠ [] ∧ ∀ a ∈ as, P a) (separated? read cs) := by
  refine .andThen (h cs) fun first rest hfirst => .done rfl ⟨List.cons_ne_nil _ _, ?_⟩
  exact List.forall_mem_cons.mpr
    ⟨hfirst, forall_manyFrom (fun cs => h (dropComma cs)) rest.length rest⟩

theorem Repeats.separated? (hfirst : read cs = some (a, rest))
    (h : Repeats (fun cs => read (dropComma cs)) rest as last) :
    separated? read cs = some (a :: as, dropComma last) := by
  rw [Script.separated?, hfirst, Option.bind_eq_bind, Option.bind_some]
  dsimp only
  rw [h.many]
  rfl

end Repetition

end Tabletop.Script
