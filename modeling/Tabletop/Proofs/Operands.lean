import Tabletop.Proofs.Decimal.Whole
import Tabletop.Proofs.Forms

/-!
# Operands of a directive

What stands for the code of a definition, for a token or for the key of an attribute is never empty
and holds no mark that divides the parts of a directive. This follows from the readers of the
operands, whatever else is on the line.

* `IsName`, `IsKey`: such texts.
* `yields_code`, `yields_reference`, `keyed_attributes`: what is read for the operands.
* `Form.WellFormed`: the operands of a form are such texts, and none of its lists of tokens is
  empty. `Form.wellFormed_of_read?`: so it is in every form that is read from a line.
-/

namespace Tabletop.Script

open Text

/-! ## Names and keys -/

/-- What a code or the reference of a token looks like. -/
structure IsName (name : String) : Prop where
  ne_empty : name ≠ ""
  marks : ∀ c ∈ name.toList, c ∉ [' ', '\t', ',', '=']

/-- What the key of an attribute looks like. Its letters are those of ASCII, in lower case. -/
structure IsKey (key : String) : Prop where
  ne_empty : key ≠ ""
  marks : ∀ c ∈ key.toList, c.isLower = true ∨ c.isDigit = true ∨ c ∈ ['_', '-', '.']

theorem isName_ofList {cs : List Char} (hne : cs ≠ [])
    (hmarks : ∀ c ∈ cs, (isItemChar c && c != '=') = true) : IsName (String.ofList cs) where
  ne_empty hempty := hne (String.ofList_eq_empty_iff.mp hempty)
  marks c hc := by
    rw [String.toList_ofList] at hc
    have hmark := hmarks c hc
    simp only [isItemChar, isGap, Bool.and_eq_true, Bool.not_eq_true', Bool.or_eq_false_iff,
      beq_eq_false_iff_ne, bne_iff_ne] at hmark
    obtain ⟨⟨⟨hblank, htab⟩, hcomma⟩, hequals⟩ := hmark
    simp [hblank, htab, hcomma, hequals]

theorem toNat_of_isKeyChar {c : Char} (h : isKeyChar c = true) : c.toNat < 0x80 := by
  simp only [isKeyChar, Char.isAlphanum, Bool.or_eq_true, beq_iff_eq] at h
  rcases h with (((halpha | hdigit) | rfl) | rfl) | rfl
  · rw [isAlpha_iff] at halpha
    omega
  · rw [isDigit_iff] at hdigit
    omega
  · decide
  · decide
  · decide

theorem isKey_foldAscii {cs : List Char} (hne : cs ≠ [])
    (hmarks : ∀ c ∈ cs, isKeyChar c = true) : IsKey (String.ofList (foldAscii cs)) where
  ne_empty hempty := hne (List.map_eq_nil_iff.mp (String.ofList_eq_empty_iff.mp hempty))
  marks c hc := by
    have hall : ∀ n < 0x80, isKeyChar (Char.ofNat n) = true →
        (Char.ofNat n).toLower.isLower = true ∨ (Char.ofNat n).toLower.isDigit = true ∨
          (Char.ofNat n).toLower ∈ ['_', '-', '.'] := by decide
    rw [String.toList_ofList] at hc
    obtain ⟨d, hd, rfl⟩ := List.mem_map.mp hc
    have hmark := hall d.toNat (toNat_of_isKeyChar (hmarks d hd))
    rw [Char.ofNat_toNat] at hmark
    exact hmark (hmarks d hd)

/-! ## Readers of operands -/

theorem yields_code (cs : List Char) :
    Yields (fun code => IsName (String.ofList code)) (code? cs) := by
  intro code rest hread
  obtain ⟨hne, hall, -, -⟩ := run?_eq_some_iff.mp hread
  exact isName_ofList hne fun c hc => (Bool.and_eq_true_iff.mp (hall c hc)).1

theorem forall_spanReference (cs : List Char) :
    ∀ c ∈ (spanReference cs).1, (isItemChar c && c != '=') = true := by
  induction cs using spanReference.induct with
  | case1 => exact List.forall_mem_nil _
  | case2 rest => exact List.forall_mem_nil _
  | case3 c rest harrow hc taken left hspan ih =>
    rw [hspan] at ih
    rw [spanReference, if_pos hc, hspan]
    · exact List.forall_mem_cons.mpr ⟨hc, ih⟩
    · exact harrow
  | case4 c rest harrow hc =>
    rw [spanReference, if_neg hc]
    · exact List.forall_mem_nil _
    · exact harrow

theorem yields_reference (cs : List Char) :
    Yields (fun id => IsName (String.ofList id)) (reference? cs) := by
  intro id rest hread
  rw [reference?, Option.ite_none_left_eq_some] at hread
  obtain ⟨hne, hread⟩ := hread
  cases hread
  exact isName_ofList (by simpa using hne) (forall_spanReference _)

/-- The keys of attributes, in lower case. -/
def Keyed (attrs : List (List Char × List Char)) : Prop :=
  ∀ a ∈ attrs, IsKey (String.ofList (foldAscii a.1))

theorem yields_attribute (cs : List Char) :
    Yields (fun a => IsKey (String.ofList (foldAscii a.1))) (attribute? cs) := by
  intro a rest hread
  obtain ⟨⟨key, after⟩, hkey, hread⟩ := Option.bind_eq_some_iff.mp hread
  obtain ⟨hne, hall, -, -⟩ := run?_eq_some_iff.mp hkey
  dsimp only at hread
  split at hread
  · obtain ⟨⟨value, left⟩, -, hread⟩ := Option.bind_eq_some_iff.mp hread
    cases hread
    exact isKey_foldAscii hne hall
  · cases hread

theorem keyed_attributes (cs : List Char) : Keyed (attributes cs).1 :=
  forall_manyFrom yields_attribute cs.length cs

namespace Form

theorem yields_initiativePair (cs : List Char) :
    Yields (fun entry => IsName (String.ofList entry.1)) (initiativePair? cs) := by
  refine .andThen (yields_reference cs) fun id rest hid => ?_
  dsimp only
  split
  · exact .bind fun _ => .done rfl hid
  · exact fun _ _ hread => nomatch hread

/-! ## Forms -/

/-- The operands of a form are names and keys, and there is a token in each list of tokens. -/
def WellFormed : Form → Prop
  | .initiativeSet entries => entries ≠ [] ∧ ∀ entry ∈ entries, IsName (String.ofList entry.1)
  | .initiative _ ids => ids ≠ [] ∧ ∀ id ∈ ids, IsName (String.ofList id)
  | .spriteDef code attrs => IsName (String.ofList code) ∧ Keyed attrs
  | .place code _ => IsName (String.ofList code)
  | .create attrs _ => Keyed attrs
  | .state attrs => Keyed attrs
  | .move id _ => IsName (String.ofList id)
  | .attack attacker target _ _ => IsName (String.ofList attacker) ∧ IsName (String.ofList target)
  | .remove id => IsName (String.ofList id)
  | _ => True

theorem yields_initiativeSet (cs : List Char) : Yields WellFormed (initiativeSet? cs) :=
  .bind fun cs => .andThen (yields_separated yields_initiativePair cs) fun _ _ h => .done rfl h

theorem yields_initiative (cs : List Char) : Yields WellFormed (initiative? cs) := by
  refine .bind fun cs => .orElse ?_ ?_
  · exact .bind fun _ => .andThen (yields_separated yields_reference _) fun _ _ h => .done rfl h
  · exact .andThen (yields_separated yields_reference cs) fun _ _ h => .done rfl h

theorem yields_spriteDef (cs : List Char) : Yields WellFormed (spriteDef? cs) :=
  .bind fun _ => .bind fun _ => .andThen (yields_code _) fun _ rest hcode =>
    .done rfl ⟨hcode, keyed_attributes rest⟩

theorem yields_place (cs : List Char) : Yields WellFormed (place? cs) :=
  .bind fun _ => .andThen (yields_code _) fun _ _ hcode => .bind fun _ => .bind fun _ =>
    .done rfl hcode

theorem yields_create (cs : List Char) : Yields WellFormed (create? cs) := by
  refine .bind fun cs => .bind fun _ => ?_
  dsimp only
  split
  · exact .done rfl (keyed_attributes cs)
  · exact .bind fun _ => .done rfl (keyed_attributes cs)

theorem yields_state (cs : List Char) : Yields WellFormed (state? cs) :=
  .bind fun cs => .done rfl (keyed_attributes cs)

theorem yields_move (cs : List Char) : Yields WellFormed (move? cs) :=
  .bind fun _ => .andThen (yields_reference _) fun _ _ hid => .bind fun _ => .bind fun _ =>
    .done rfl hid

theorem yields_attack (cs : List Char) : Yields WellFormed (attack? cs) :=
  .bind fun _ => .andThen (yields_reference _) fun _ _ hattacker => .bind fun _ =>
    .andThen (yields_reference _) fun _ _ htarget => .done rfl ⟨hattacker, htarget⟩

theorem yields_remove (cs : List Char) : Yields WellFormed (remove? cs) :=
  .bind fun _ => .andThen (yields_reference _) fun _ _ hid => .done rfl hid

theorem wellFormed_of_read? {line : List Char} {form : Form} (h : read? line = some form) :
    form.WellFormed := by
  obtain ⟨⟨front, rest⟩, hfront, hform⟩ := Option.bind_eq_some_iff.mp h
  dsimp only at hform
  split at hform
  · cases hform
    have hread := reader_of_front? hfront
    cases form with
    | initiativeSet entries => exact yields_initiativeSet line _ rest hread
    | initiative value ids => exact yields_initiative line _ rest hread
    | spriteDef code attrs => exact yields_spriteDef line _ rest hread
    | place code items => exact yields_place line _ rest hread
    | create attrs items => exact yields_create line _ rest hread
    | state attrs => exact yields_state line _ rest hread
    | move id items => exact yields_move line _ rest hread
    | attack attacker target magic timings => exact yields_attack line _ rest hread
    | remove id => exact yields_remove line _ rest hread
    | _ => trivial
  · cases hform

end Form

end Tabletop.Script
