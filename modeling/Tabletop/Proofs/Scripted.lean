import Tabletop.Proofs.Operands
import Tabletop.Proofs.Passages
import Tabletop.Proofs.World

/-!
# Tokens of scripted worlds and their ids

A token is addressed by the id that is shown for it. The id is made from a stem that a script gives,
and it is found again exactly if there is no white space in the stem.

* `Script.instruction_cases`: where the instructions of a script come from.
* `World.Scripted`: the worlds that scripts lead to. None of their tokens has an empty stem.
* `World.addressable_iff` says which of their tokens can be addressed.
-/

namespace Tabletop

/-! ## The stems of a script -/

namespace Attributes

theorem ne_empty_of_given? {attrs : Attributes} {keys : List String} {s : String}
    (h : attrs.given? keys = some s) : s ≠ "" := by
  obtain ⟨-, hs⟩ := Option.filter_eq_some_iff.mp h
  rintro rfl
  cases hs

theorem ne_empty_of_reference? {attrs : Attributes} {s : String} (h : attrs.reference? = some s) :
    s ≠ "" := ne_empty_of_given? h

theorem ne_empty_of_stem? {attrs : Attributes} {s : String} (h : attrs.stem? = some s) :
    s ≠ "" := by
  rw [stem?, Option.orElse_eq_orElse, Option.orElse_eq_or, Option.or_eq_some_iff] at h
  rcases h with h | ⟨-, h⟩
  · exact ne_empty_of_given? h
  · exact ne_empty_of_reference? h

end Attributes

namespace Script

theorem form_of_place {base : RowBase} {form : Form} {reading : Reading} {code : String}
    {cells : List Cell} (h : Directive.ofForm? base form = some reading)
    (hemit : reading.directive = some (.emit (.place code cells))) :
    ∃ cs items, form = .place cs items ∧ code = String.ofList cs := by
  cases Form.asks_of_ofForm? h hemit with
  | place cs items => exact ⟨cs, items, rfl, rfl⟩

theorem mem_passages {base : RowBase} {ends : List Char → Bool} {lines : List (Nat × List Char)}
    {p : Passage} (h : p ∈ passages base ends lines) :
    ∃ line after, p = .of base ends line after := by
  induction lines using passages.induct base ends with
  | case1 =>
    rw [passages] at h
    cases h
  | case2 line after passage ih =>
    rw [passages] at h
    rcases List.mem_cons.mp h with rfl | h
    · exact ⟨line, after, rfl⟩
    · exact ih h

/-- An instruction of a script holds lines of heights, or a directive asks for it. -/
theorem instruction_cases {base : RowBase} {source : String} {i : Instruction}
    (h : i ∈ (parse base source).instructions) :
    (∃ rows, i = .heightRows rows) ∨ (∃ text, i = .heightRaw text) ∨
      ∃ line reading, Directive.read? base line = some reading ∧
        reading.directive = some (.emit i) := by
  rw [parse_eq_readFrom, readFrom_shut] at h
  obtain ⟨p, hp, hi⟩ := List.mem_filterMap.mp h
  obtain ⟨line, after, rfl⟩ := mem_passages hp
  rw [Passage.of] at hi
  split at hi
  · cases hi
  · rename_i reading hread
    dsimp only at hi
    cases hdirective : reading.directive with
    | none =>
      rw [hdirective] at hi
      cases hi
    | some directive =>
      rw [hdirective] at hi
      cases directive with
      | emit instruction =>
        cases hi
        exact .inr (.inr ⟨line.2, reading, hread, hdirective⟩)
      | openHeights text =>
        rw [Body.ofDirective, Body.instruction?] at hi
        split at hi
        · cases hi
        · cases hi
          exact .inr (.inl ⟨_, rfl⟩)
      | startBlock =>
        cases hi
        exact .inl ⟨_, rfl⟩
      | endBlock => cases hi

/-- A script gives out no id without a stem. -/
theorem stems_ne_empty {base : RowBase} {source : String} {i : Instruction}
    (h : i ∈ (parse base source).instructions) {stem : String} (hstem : stem ∈ Lint.stems i) :
    stem ≠ "" := by
  unfold Lint.stems at hstem
  split at hstem
  · rename_i code cells
    obtain rfl := List.mem_singleton.mp hstem
    rcases instruction_cases h with ⟨rows, hi⟩ | ⟨text, hi⟩ | ⟨line, reading, hread, hemit⟩
    · cases hi
    · cases hi
    · obtain ⟨form, hform, hread⟩ := Option.bind_eq_some_iff.mp hread
      obtain ⟨cs, items, rfl, rfl⟩ := form_of_place hread hemit
      exact (Form.wellFormed_of_read? hform).ne_empty
  · rename_i attrs target
    obtain ⟨reference, href, rfl⟩ := Option.map_eq_some_iff.mp (Option.mem_toList.mp hstem)
    cases hs : attrs.stem? with
    | none => exact Attributes.ne_empty_of_reference? href
    | some s => exact Attributes.ne_empty_of_stem? hs
  · cases hstem

end Script

namespace World

/-! ## Scripted worlds -/

/-- The worlds that scripts lead to, one after another. -/
inductive Scripted : World → Prop where
  | empty : Scripted .empty
  | apply {w : World} (rules : Rules) (base : RowBase) (source : String) (h : Scripted w) :
      Scripted (w.apply rules (Script.parse base source).instructions).1

theorem stem_ne_empty_run {rules : Rules} {w : World} {batch : List Instruction}
    (hbatch : ∀ i ∈ batch, ∀ stem ∈ Lint.stems i, stem ≠ "")
    (h : ∀ id ∈ w.scene.ids, id.stem ≠ "") :
    ∀ id ∈ (run rules w batch).1.scene.ids, id.stem ≠ "" := by
  induction batch generalizing w with
  | nil => exact h
  | cons i batch ih =>
    obtain ⟨hi, hbatch⟩ := List.forall_mem_cons.mp hbatch
    rw [run_cons]
    refine ih hbatch fun id hid => ?_
    rcases (change_after rules w i).mem_ids hid with hid | hid
    · exact h id hid
    · exact hi _ hid

theorem Scripted.stem_ne_empty {w : World} (h : Scripted w) :
    ∀ id ∈ w.scene.ids, id.stem ≠ "" := by
  induction h with
  | empty =>
    intro id hid
    cases hid
  | apply rules base source _ ih =>
    rw [Scene.ids, apply_scene]
    exact stem_ne_empty_run (fun i hi stem hstem => Script.stems_ne_empty hi hstem) ih

/-! ## Addressing a token -/

/-- A token of a scripted world can be addressed by its id if and only if there is no white space in
the stem. The reader of ids takes white space away at the ends and refuses it elsewhere; where ids
are found by their beginnings, too, those without white space are still found as a whole. -/
theorem addressable_iff {w : World} (h : Scripted w) {t : Token Float} (ht : t ∈ w.scene.tokens) :
    (w.resolve? false t.id.text = some t.id ↔ ∀ c ∈ t.id.stem.toList, Text.isBlank c = false) ∧
      ((∀ c ∈ t.id.stem.toList, Text.isBlank c = false) →
        ∀ byBeginning, w.resolve? byBeginning t.id.text = some t.id) := by
  have hid : t.id ∈ w.scene.ids := List.mem_map_of_mem ht
  have hfound : (∀ c ∈ t.id.stem.toList, Text.isBlank c = false) →
      ∀ byBeginning, w.resolve? byBeginning t.id.text = some t.id := fun hblank =>
    resolve?_text ⟨h.stem_ne_empty t.id hid, hblank⟩ hid
  exact ⟨⟨fun hresolve => (readable_of_resolve? hresolve).2, fun hblank => hfound hblank false⟩,
    hfound⟩

/-- A goblin under its own name, beside one under a name of two words. -/
theorem addressable_iff_goblins :
    ∃ w : World, Scripted w ∧ ∃ t ∈ w.scene.tokens, ∃ t' ∈ w.scene.tokens,
      (∀ byBeginning, w.resolve? byBeginning t.id.text = some t.id) ∧
        w.resolve? false t'.id.text ≠ some t'.id := by
  let source := "CREATE type=goblin @ A1\nCREATE type=goblin id=\"big goblin\" @ B1"
  let w := (World.empty.apply (.ofSettings {} 0) (Script.parse .one source).instructions).1
  have hw : Scripted w := .apply _ _ _ .empty
  have hids : w.scene.ids = [⟨"goblin", 1⟩, ⟨"big goblin", 1⟩] := by decide +kernel
  have hgoblin : TokenId.Readable "goblin" := by decide
  have hmem : ⟨"goblin", 1⟩ ∈ w.scene.ids ∧ ⟨"big goblin", 1⟩ ∈ w.scene.ids := by
    rw [hids]
    decide
  obtain ⟨t, ht, hid⟩ := List.mem_map.mp hmem.1
  obtain ⟨t', ht', hid'⟩ := List.mem_map.mp hmem.2
  refine ⟨w, hw, t, ht, t', ht', (addressable_iff hw ht).2 ?_, fun hresolve => ?_⟩
  · rw [hid]
    exact hgoblin.2
  · have hblank := (addressable_iff hw ht').1.mp hresolve ' '
    rw [hid'] at hblank
    exact absurd (hblank (by decide)) (by decide)

/-- A goblin whose name begins with a blank. Its id is that of another goblin, whether ids are found
by their beginnings or not. -/
theorem addressed_for_another :
    ∃ w : World, Scripted w ∧ ∃ t ∈ w.scene.tokens, ∀ byBeginning,
      w.resolve? byBeginning t.id.text = some ⟨"g", 1⟩ ∧ t.id ≠ ⟨"g", 1⟩ := by
  let source := "CREATE type=goblin id=\" g\" @ B1\nCREATE type=goblin id=g @ C1"
  let w := (World.empty.apply (.ofSettings {} 0) (Script.parse .one source).instructions).1
  have hids : w.scene.ids = [⟨" g", 1⟩, ⟨"g", 1⟩] := by decide +kernel
  have hresolve : ∀ byBeginning, w.resolve? byBeginning " g-1" = some ⟨"g", 1⟩ := by decide +kernel
  have hmem : ⟨" g", 1⟩ ∈ w.scene.ids := by
    rw [hids]
    decide
  obtain ⟨t, ht, hid⟩ := List.mem_map.mp hmem
  refine ⟨w, .apply _ _ _ .empty, t, ht, fun byBeginning => ?_⟩
  rw [hid]
  exact ⟨hresolve byBeginning, by decide⟩

end World

end Tabletop
