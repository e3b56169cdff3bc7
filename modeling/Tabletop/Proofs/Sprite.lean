import Mathlib.Data.List.Nodup
import Tabletop.Sprite

/-!
# Definitions by their codes

Two ways to compare codes without regard to case meet in the definitions: a check compares the full
lower case, and a look-up folds the letters `A` to `Z`. In ASCII they are the same.

* `Text.toList_lowered`: the lower case of an ASCII text is its folding.
* `Sprite.Declared`: there is a definition whose code folds to some letters. What has been declared
  stays declared (`declared_upsert`, `declared_of_resolve?`), and is found (`resolve?_of_declared`).
* `Sprite.Unambiguous`: no two codes fold to the same letters, and ids are codes. Then a look-up does
  not depend on the order of the definitions (`Unambiguous.lookup?_eq_some_iff`). Declarations and
  archetypes that join keep it so.
-/

namespace Tabletop

/-! ## ASCII texts -/

namespace Text

def IsAscii (s : String) : Prop := ∀ c ∈ s.toList, c.toNat < 0x80

-- Named, since inference may go through all characters there are.
instance (s : String) : Decidable (IsAscii s) :=
  List.decidableBAll (fun c : Char => c.toNat < 0x80) s.toList

theorem lowerFrom_of_ascii (before : List Char) {cs : List Char}
    (h : ∀ c ∈ cs, c.toNat < 0x80) : lowerFrom before cs = foldAscii cs := by
  induction cs generalizing before with
  | nil => rfl
  | cons c cs ih =>
    have hc := h c List.mem_cons_self
    have hsigma : c ≠ capitalSigma := by
      rintro rfl
      exact absurd hc (by decide)
    have hlower : lowerChar c = [c.toLower] := by
      rw [lowerChar, mapCase, if_pos hc]
    rw [lowerFrom, if_neg hsigma, hlower, ih _ fun c' hc' => h c' (List.mem_cons_of_mem _ hc')]
    rfl

/-- In ASCII the lower case is the folding of case. -/
theorem toList_lowered {s : String} (h : IsAscii s) : (lowered s).toList = foldAscii s.toList := by
  rw [lowered, String.toList_ofList, lower, lowerFrom_of_ascii [] h]

theorem sameFolded_iff {a b : String} :
    sameFolded a b = true ↔ foldAscii a.toList = foldAscii b.toList := by
  rw [sameFolded, beq_iff_eq]

end Text

namespace Sprite

/-! ## Declared codes -/

/-- Some definition has a code that folds to the letters. -/
def Declared (sprites : List Sprite) (letters : List Char) : Prop :=
  ∃ s ∈ sprites, Text.foldAscii s.code.toList = letters

theorem mem_upsert (sprites : List Sprite) (sprite : Sprite) : sprite ∈ upsert sprites sprite := by
  induction sprites with
  | nil => exact List.mem_cons_self
  | cons s rest ih =>
    rw [upsert]
    split
    · exact List.mem_cons_self
    · exact List.mem_cons_of_mem _ ih

theorem declared_upsert_self (sprites : List Sprite) (sprite : Sprite) :
    Declared (upsert sprites sprite) (Text.foldAscii sprite.code.toList) :=
  ⟨sprite, mem_upsert sprites sprite, rfl⟩

/-- The definition that another one replaces has the same code. -/
theorem declared_upsert {sprites : List Sprite} {letters : List Char} (h : Declared sprites letters)
    (sprite : Sprite) : Declared (upsert sprites sprite) letters := by
  induction sprites with
  | nil =>
    obtain ⟨s, hs, -⟩ := h
    cases hs
  | cons s rest ih =>
    obtain ⟨found, hfound, hletters⟩ := h
    rw [upsert]
    split
    · rename_i hsame
      rcases List.mem_cons.mp hfound with rfl | hfound
      · exact ⟨sprite, List.mem_cons_self, (Text.sameFolded_iff.mp hsame).symm.trans hletters⟩
      · exact ⟨found, List.mem_cons_of_mem _ hfound, hletters⟩
    · rcases List.mem_cons.mp hfound with rfl | hfound
      · exact ⟨found, List.mem_cons_self, hletters⟩
      · obtain ⟨kept, hkept, hletters⟩ := ih ⟨found, hfound, hletters⟩
        exact ⟨kept, List.mem_cons_of_mem _ hkept, hletters⟩

/-! ## Look-up -/

theorem resolve?_of_declared {sprites : List Sprite} {reference : String}
    (h : Declared sprites (Text.foldAscii reference.toList)) :
    (resolve? sprites reference).isSome := by
  obtain ⟨s, hs, hletters⟩ := h
  have hfound : (lookup? sprites reference).isSome := by
    refine List.find?_isSome.mpr ⟨s, hs, ?_⟩
    rw [isNamed, Text.sameFolded_iff.mpr hletters, Bool.true_or]
  obtain ⟨found, hfound⟩ := Option.isSome_iff_exists.mp hfound
  rw [resolve?, hfound]
  rfl

theorem resolve?_of_archetype (sprites : List Sprite) {reference : String}
    (h : (Archetype.find? reference).isSome) : (resolve? sprites reference).isSome := by
  rw [resolve?]
  split
  · rfl
  · rw [Option.isSome_map]
    exact h

/-- A look-up may bring an archetype, and takes nothing away. -/
theorem declared_of_resolve? {sprites sprites' : List Sprite} {reference : String}
    {sprite : Sprite} {letters : List Char} (h : Declared sprites letters)
    (hresolve : resolve? sprites reference = some (sprite, sprites')) :
    Declared sprites' letters := by
  rw [resolve?] at hresolve
  split at hresolve
  · cases hresolve
    exact h
  · obtain ⟨a, -, hpair⟩ := Option.map_eq_some_iff.mp hresolve
    cases hpair
    exact declared_upsert h _

/-! ## Codes that differ in more than case -/

/-- The code without regard to case. -/
def letters (s : Sprite) : List Char := Text.foldAscii s.code.toList

theorem mem_of_mem_upsert {sprites : List Sprite} {s sprite : Sprite}
    (h : s ∈ upsert sprites sprite) : s = sprite ∨ s ∈ sprites := by
  induction sprites with
  | nil => exact .inl (List.mem_singleton.mp h)
  | cons first rest ih =>
    rw [upsert] at h
    split at h
    · exact (List.mem_cons.mp h).imp_right (List.mem_cons_of_mem first)
    · rcases List.mem_cons.mp h with rfl | h
      · exact .inr List.mem_cons_self
      · exact (ih h).imp_right (List.mem_cons_of_mem first)

theorem forall_mem_upsert {P : Sprite → Prop} {sprites : List Sprite} {sprite : Sprite}
    (h : ∀ s ∈ sprites, P s) (hsprite : P sprite) : ∀ s ∈ upsert sprites sprite, P s := by
  intro s hs
  rcases mem_of_mem_upsert hs with rfl | hs
  · exact hsprite
  · exact h s hs

/-- A definition that takes the place of another one has the same letters. -/
theorem letters_upsert (sprites : List Sprite) (sprite : Sprite) :
    (upsert sprites sprite).map letters =
      if sprite.letters ∈ sprites.map letters then sprites.map letters
      else sprites.map letters ++ [sprite.letters] := by
  induction sprites with
  | nil => rfl
  | cons first rest ih =>
    rw [upsert]
    by_cases hsame : Text.sameFolded first.code sprite.code = true
    · have hletters : first.letters = sprite.letters := Text.sameFolded_iff.mp hsame
      rw [if_pos hsame, List.map_cons, List.map_cons, hletters, if_pos List.mem_cons_self]
    · have hletters : sprite.letters ≠ first.letters := fun heq =>
        hsame (Text.sameFolded_iff.mpr heq.symm)
      rw [if_neg hsame, List.map_cons, List.map_cons, ih]
      by_cases hmem : sprite.letters ∈ rest.map letters
      · rw [if_pos hmem, if_pos (List.mem_cons_of_mem _ hmem)]
      · rw [if_neg hmem, if_neg (List.not_mem_cons_of_ne_of_not_mem hletters hmem),
          List.cons_append]

/-- No two definitions can be meant by one code. -/
structure Unambiguous (sprites : List Sprite) : Prop where
  distinct : (sprites.map letters).Nodup
  id_eq : ∀ s ∈ sprites, s.id = s.code

theorem unambiguous_nil : Unambiguous [] := ⟨List.nodup_nil, by simp⟩

theorem mem_of_lookup? {sprites : List Sprite} {reference : String} {s : Sprite}
    (h : lookup? sprites reference = some s) : s ∈ sprites ∧ s.isNamed reference = true := by
  rw [lookup?] at h
  exact ⟨List.mem_of_find?_eq_some h, List.find?_some (p := fun s : Sprite => s.isNamed reference) h⟩

theorem mem_of_resolve? {sprites sprites' : List Sprite} {reference : String} {sprite : Sprite}
    (h : resolve? sprites reference = some (sprite, sprites')) : sprite ∈ sprites' := by
  rw [resolve?] at h
  split at h
  · rename_i found hfound
    cases h
    exact (mem_of_lookup? hfound).1
  · obtain ⟨a, -, hpair⟩ := Option.map_eq_some_iff.mp h
    cases hpair
    exact mem_upsert _ _

namespace Unambiguous

variable {sprites : List Sprite}

theorem upsert (h : Unambiguous sprites) {sprite : Sprite} (hid : sprite.id = sprite.code) :
    Unambiguous (Sprite.upsert sprites sprite) where
  distinct := by
    rw [letters_upsert]
    split
    · exact h.distinct
    · rename_i hnew
      exact List.nodup_append'.mpr
        ⟨h.distinct, List.nodup_singleton _, List.disjoint_singleton.mpr hnew⟩
  id_eq s hs := by
    rcases mem_of_mem_upsert hs with rfl | hs
    · exact hid
    · exact h.id_eq s hs

theorem resolve? (h : Unambiguous sprites) {sprites' : List Sprite} {reference : String}
    {sprite : Sprite} (hresolve : Sprite.resolve? sprites reference = some (sprite, sprites')) :
    Unambiguous sprites' := by
  rw [Sprite.resolve?] at hresolve
  split at hresolve
  · cases hresolve
    exact h
  · obtain ⟨a, -, hpair⟩ := Option.map_eq_some_iff.mp hresolve
    cases hpair
    exact h.upsert rfl

theorem isNamed_iff (h : Unambiguous sprites) {s : Sprite} (hs : s ∈ sprites)
    (reference : String) :
    s.isNamed reference = true ↔ Text.sameFolded s.code reference = true := by
  rw [isNamed, h.id_eq s hs, Bool.or_self]

/-- The definition with a code is found, wherever it stands. -/
theorem lookup?_eq_some_iff (h : Unambiguous sprites) {reference : String} {s : Sprite} :
    lookup? sprites reference = some s ↔
      s ∈ sprites ∧ Text.sameFolded s.code reference = true := by
  constructor
  · intro hfound
    obtain ⟨hs, hnamed⟩ := mem_of_lookup? hfound
    exact ⟨hs, (h.isNamed_iff hs reference).mp hnamed⟩
  · rintro ⟨hs, hsame⟩
    have hsome : (lookup? sprites reference).isSome :=
      List.find?_isSome.mpr ⟨s, hs, (h.isNamed_iff hs reference).mpr hsame⟩
    obtain ⟨found, hfound⟩ := Option.isSome_iff_exists.mp hsome
    obtain ⟨hmem, hnamed⟩ := mem_of_lookup? hfound
    have hsame' := (h.isNamed_iff hmem reference).mp hnamed
    have hletters : found.letters = s.letters :=
      (Text.sameFolded_iff.mp hsame').trans (Text.sameFolded_iff.mp hsame).symm
    rw [hfound, List.inj_on_of_nodup_map h.distinct hmem hs hletters]

end Unambiguous

end Sprite

end Tabletop
