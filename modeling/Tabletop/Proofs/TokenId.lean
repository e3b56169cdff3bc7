import Tabletop.Proofs.Decimal.Whole
import Tabletop.Proofs.Text
import Tabletop.TokenId

/-!
# Token ids as names

A token id is written so that it can be read again, and a new token never takes the id of another
one.

* `ofText?_text`: an id whose stem is not empty and has no blanks is read from what is written.
* `text_injective`: different ids are written differently, whatever their stems hold;
  `text_unambiguous` puts both together.
* `next_not_mem`: the next id with a stem is new, as long as no id has the last number that there
  is.
-/

namespace Tabletop

/-! ## Texts without blanks -/

namespace Text

theorem cutLast_eq_none {p : Char → Bool} {cs : List Char} (h : ∀ c ∈ cs, p c = false) :
    cutLast p cs = none := by
  induction cs with
  | nil => rfl
  | cons c rest ih =>
    have hc := h c List.mem_cons_self
    rw [cutLast, ih fun c' hc' => h c' (List.mem_cons_of_mem _ hc')]
    simp [hc]

theorem cutLast_append {p : Char → Bool} {x : Char} (front : List Char) {back : List Char}
    (hx : p x = true) (hback : ∀ c ∈ back, p c = false) :
    cutLast p (front ++ x :: back) = some (front, back) := by
  induction front with
  | nil =>
    rw [List.nil_append, cutLast, cutLast_eq_none hback]
    simp [hx]
  | cons c front ih => rw [List.cons_append, cutLast, ih]

end Text

namespace TokenId

/-! ## Writing and reading -/

/-- A stem that can be read: it is not empty and has no blanks. -/
def Readable (stem : String) : Prop := stem ≠ "" ∧ ∀ c ∈ stem.toList, Text.isBlank c = false

instance (stem : String) : Decidable (Readable stem) :=
  @instDecidableAnd _ _ inferInstance
    (List.decidableBAll (fun c : Char => Text.isBlank c = false) stem.toList)

theorem toList_text (id : TokenId) : id.text.toList = id.chars := String.toList_ofList

theorem isBlank_of_mem_chars {id : TokenId} (h : Readable id.stem) {c : Char} (hc : c ∈ id.chars) :
    Text.isBlank c = false := by
  rcases List.mem_append.mp hc with hc | hc
  · exact h.2 c hc
  · rcases List.mem_cons.mp hc with rfl | hc
    · decide
    · exact Decimal.isBlank_of_mem_digits hc

theorem cutLast_chars (id : TokenId) :
    Text.cutLast (· == '-') id.chars = some (id.stem.toList, Decimal.digits id.number.toNat) := by
  refine Text.cutLast_append _ rfl fun c hc => ?_
  have hne : c ≠ '-' := Decimal.ne_of_mem_digits (by decide) hc
  simpa using hne

theorem ofText?_text {id : TokenId} (h : Readable id.stem) : ofText? id.text = some id := by
  have hblank : id.stem.toList.any Text.isBlank = false :=
    List.any_eq_false.mpr fun c hc => by simp [h.2 c hc]
  rw [ofText?, toList_text, ofChars?, Text.trim_eq_self fun c hc => isBlank_of_mem_chars h hc,
    cutLast_chars]
  simp only [Option.bind_eq_bind, Option.bind_some, hblank, Decimal.readUInt32?_digits]
  simpa using h.1

/-- What is read as an id can be written and read again. -/
theorem readable_of_ofText? {s : String} {id : TokenId} (h : ofText? s = some id) :
    Readable id.stem := by
  obtain ⟨⟨stem, number⟩, -, h⟩ := Option.bind_eq_some_iff.mp h
  dsimp only at h
  split at h
  · cases h
  · rename_i hstem
    obtain ⟨n, -, hid⟩ := Option.bind_eq_some_iff.mp h
    obtain rfl := (Option.some.inj hid).symm
    simp only [Bool.or_eq_true, not_or, List.isEmpty_iff, List.any_eq_true, not_exists, not_and,
      Bool.not_eq_true] at hstem
    refine ⟨fun hempty => hstem.1 (String.ofList_eq_empty_iff.mp hempty), fun c hc => ?_⟩
    rw [String.toList_ofList] at hc
    exact hstem.2 c hc

theorem text_injective {a b : TokenId} (h : a.text = b.text) : a = b := by
  have hchars : a.chars = b.chars := by
    rw [← toList_text, ← toList_text, h]
  have hcut : some (a.stem.toList, Decimal.digits a.number.toNat) =
      some (b.stem.toList, Decimal.digits b.number.toNat) := by
    rw [← cutLast_chars, ← cutLast_chars, hchars]
  obtain ⟨hstem, hnumber⟩ := Prod.mk.inj (Option.some.inj hcut)
  have hread : Decimal.readUInt32? (Decimal.digits a.number.toNat) =
      Decimal.readUInt32? (Decimal.digits b.number.toNat) := by rw [hnumber]
  rw [Decimal.readUInt32?_digits, Decimal.readUInt32?_digits] at hread
  cases a
  cases b
  simp only [mk.injEq]
  exact ⟨String.toList_inj.mp hstem, Option.some.inj hread⟩

/-- Ids are told apart by how they are written. What is written for an id is read as this id if and
only if its stem is not empty and has no blanks. -/
theorem text_unambiguous (a b : TokenId) :
    (a.text = b.text ↔ a = b) ∧
      (ofText? a.text = some a ↔ a.stem ≠ "" ∧ ∀ c ∈ a.stem.toList, Text.isBlank c = false) :=
  ⟨⟨text_injective, congrArg text⟩, ⟨readable_of_ofText?, ofText?_text⟩⟩

/-! ## New ids -/

/-- No id has the last number that there is. -/
def HaveRoom (ids : List TokenId) : Prop := ∀ id ∈ ids, id.number.toNat < Decimal.word32

instance (ids : List TokenId) : Decidable (HaveRoom ids) :=
  inferInstanceAs (Decidable (∀ id ∈ ids, id.number.toNat < Decimal.word32))

theorem HaveRoom.of_subset {ids ids' : List TokenId} (h : HaveRoom ids') (hs : ids ⊆ ids') :
    HaveRoom ids := fun id hid => h id (hs hid)

theorem toNat_max (a b : UInt32) : (max a b).toNat = max a.toNat b.toNat := by
  have hmax : max a b = if a ≤ b then b else a := rfl
  rw [hmax]
  split <;> rename_i h <;> rw [UInt32.le_iff_toNat_le] at h <;> omega

/-- The highest of a number and the numbers with a stem. -/
def highestFrom (stem : String) (start : UInt32) (ids : List TokenId) : UInt32 :=
  ids.foldl (fun top id => if id.stem = stem then max top id.number else top) start

theorem highestFrom_cons (stem : String) (start : UInt32) (x : TokenId) (ids : List TokenId) :
    highestFrom stem start (x :: ids) =
      highestFrom stem (if x.stem = stem then max start x.number else start) ids := rfl

theorem start_le_highestFrom (stem : String) (start : UInt32) (ids : List TokenId) :
    start.toNat ≤ (highestFrom stem start ids).toNat := by
  induction ids generalizing start with
  | nil => exact Nat.le_refl _
  | cons x ids ih =>
    rw [highestFrom_cons]
    by_cases hx : x.stem = stem
    · have hrest := ih (max start x.number)
      rw [toNat_max] at hrest
      rw [if_pos hx]
      omega
    · rw [if_neg hx]
      exact ih start

theorem le_highestFrom {stem : String} {start : UInt32} {ids : List TokenId} {id : TokenId}
    (h : id ∈ ids) (hstem : id.stem = stem) :
    id.number.toNat ≤ (highestFrom stem start ids).toNat := by
  induction ids generalizing start with
  | nil => cases h
  | cons x ids ih =>
    rw [highestFrom_cons]
    rcases List.mem_cons.mp h with rfl | h
    · have hstart := start_le_highestFrom stem (max start id.number) ids
      rw [toNat_max] at hstart
      rw [if_pos hstem]
      omega
    · exact ih h

/-- The highest number is one that is there, or the one that was begun with. -/
theorem highestFrom_mem (stem : String) (start : UInt32) (ids : List TokenId) :
    highestFrom stem start ids = start ∨
      ∃ id ∈ ids, id.stem = stem ∧ id.number = highestFrom stem start ids := by
  induction ids generalizing start with
  | nil => exact .inl rfl
  | cons x ids ih =>
    rw [highestFrom_cons]
    rcases ih (if x.stem = stem then max start x.number else start) with h | ⟨id, hid, h⟩
    · rw [h]
      by_cases hx : x.stem = stem
      · rw [if_pos hx]
        have hmax : max start x.number = if start ≤ x.number then x.number else start := rfl
        rw [hmax]
        split
        · exact .inr ⟨x, List.mem_cons_self, hx, rfl⟩
        · exact .inl rfl
      · rw [if_neg hx]
        exact .inl rfl
    · exact .inr ⟨id, List.mem_cons_of_mem _ hid, h⟩

theorem highest_lt (stem : String) {ids : List TokenId} (h : HaveRoom ids) :
    (highest stem ids).toNat < Decimal.word32 := by
  rcases highestFrom_mem stem 0 ids with hzero | ⟨id, hid, -, hnumber⟩
  · have hzero : highest stem ids = 0 := hzero
    rw [hzero]
    decide
  · have hnumber : id.number = highest stem ids := hnumber
    rw [← hnumber]
    exact h id hid

theorem toNat_next (stem : String) {ids : List TokenId} (h : HaveRoom ids) :
    (next stem ids).number.toNat = (highest stem ids).toNat + 1 := by
  have hlt := highest_lt stem h
  simp only [Decimal.word32] at hlt
  rw [next, UInt32.toNat_add]
  have h1 : (1 : UInt32).toNat = 1 := rfl
  omega

theorem next_not_mem {stem : String} {ids : List TokenId} (h : HaveRoom ids) :
    next stem ids ∉ ids := by
  intro hmem
  have hle : (next stem ids).number.toNat ≤ (highest stem ids).toNat :=
    le_highestFrom hmem rfl
  have hnext := toNat_next stem h
  omega

end TokenId

end Tabletop
