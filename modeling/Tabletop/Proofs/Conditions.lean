import Tabletop.Proofs.Letters
import Tabletop.Proofs.Text
import Tabletop.Proofs.Turns

/-!
# Conditions of a fighter

The conditions of a fighter are a list that is meant as a set. What joins it is kept in the full
lower case of the text, and looked for by folding the letters `A` to `Z`. The list is a set as long
as the two agree.

* `Text.PlainCase`: a text whose lower case is its folding.
* `Fighter.GivesCondition`: an entry that is neither `none` nor a removal.
* `Roster.Told`: the rosters that turns lead to, and instructions with allowed entries only. What
  every entry keeps holds throughout them (`Told.forall_conditions`).
* `Roster.conditions_form_set_iff`: in all of them no condition is there twice if and only if all
  allowed entries that give a condition have plain case, and a removal at the end of a list removes
  its condition, if it is one, if and only if it has.
-/

namespace Tabletop

/-! ## Plain case -/

namespace Text

/-- The letters `A` to `Z` are all that the lower case changes. -/
def PlainCase (s : String) : Prop := lower s.toList = foldAscii s.toList

instance (s : String) : Decidable (PlainCase s) :=
  inferInstanceAs (Decidable (lower s.toList = foldAscii s.toList))

theorem PlainCase.of_isAscii {s : String} (h : IsAscii s) : PlainCase s := lowerFrom_of_ascii [] h

theorem sameFolded_lowered_iff {s : String} : sameFolded (lowered s) s = true ↔ PlainCase s := by
  rw [sameFolded_iff, folded_lowered s, lowered, String.toList_ofList, PlainCase]

/-- What folds to ASCII letters is ASCII. -/
theorem isAscii_of_sameFolded {s t : String} (h : sameFolded s t = true) (ht : IsAscii t) :
    IsAscii s := by
  rw [sameFolded_iff] at h
  intro c hc
  have hmem : c.toLower ∈ foldAscii t.toList := h ▸ List.mem_map_of_mem hc
  obtain ⟨d, hd, heq⟩ := List.mem_map.mp hmem
  by_contra hlarge
  have hself : c.toLower = c := toLower_of_le (by omega)
  by_cases hcapital : 0x5B ≤ d.toNat
  · rw [toLower_of_le hcapital, hself] at heq
    exact hlarge (heq ▸ ht d hd)
  · have hall : ∀ n < 0x5B, (Char.ofNat n).toLower.toNat < 0x80 := by decide
    have hd' := hall d.toNat (by omega)
    rw [Char.ofNat_toNat, heq, hself] at hd'
    exact hlarge hd'

end Text

/-! ## Entries -/

namespace Fighter

/-- A piece of a list of conditions: not empty, without white space around it and without commas. -/
structure IsEntry (e : String) : Prop where
  nonempty : e.toList ≠ []
  trimmed : Text.trim e.toList = e.toList
  whole : ',' ∉ e.toList

instance (e : String) : Decidable (IsEntry e) :=
  decidable_of_iff (e.toList ≠ [] ∧ Text.trim e.toList = e.toList ∧ ',' ∉ e.toList)
    ⟨fun ⟨h₁, h₂, h₃⟩ => ⟨h₁, h₂, h₃⟩, fun ⟨h₁, h₂, h₃⟩ => ⟨h₁, h₂, h₃⟩⟩

theorem not_mem_of_mem_splitOn {a : Char} {piece cs : List Char} (h : piece ∈ cs.splitOn a) :
    a ∉ piece := by
  induction cs generalizing piece with
  | nil =>
    rw [List.mem_singleton.mp h]
    exact List.not_mem_nil
  | cons c cs ih =>
    rw [List.splitOn_cons_eq_if_modifyHead] at h
    split at h
    · rcases List.mem_cons.mp h with rfl | h
      · exact List.not_mem_nil
      · exact ih h
    · rename_i hne
      obtain ⟨first, pieces, hsplit⟩ := List.exists_cons_of_ne_nil (List.splitOn_ne_nil a cs)
      rw [hsplit] at h ih
      rcases List.mem_cons.mp h with rfl | h
      · rw [List.mem_cons, not_or]
        exact ⟨fun heq => hne (beq_iff_eq.mpr heq.symm), ih List.mem_cons_self⟩
      · exact ih (List.mem_cons_of_mem _ h)

theorem isEntry_of_mem {e list : String} (h : e ∈ conditionEntries list) : IsEntry e := by
  obtain ⟨cs, hcs, rfl⟩ := List.mem_map.mp h
  obtain ⟨hcs, hsome⟩ := List.mem_filter.mp hcs
  obtain ⟨piece, hpiece, rfl⟩ := List.mem_map.mp hcs
  refine ⟨?_, ?_, ?_⟩
  · rw [String.toList_ofList]
    simpa using hsome
  · rw [String.toList_ofList, Text.trim_trim]
  · rw [String.toList_ofList]
    exact fun hmem => not_mem_of_mem_splitOn hpiece ((Text.trim_sublist piece).subset hmem)

/-- Entries stand for themselves in the list that they make up. -/
theorem conditionEntries_of_isEntry {e : String} (h : IsEntry e) : conditionEntries e = [e] := by
  have hsome : e.toList.isEmpty = false := List.isEmpty_eq_false_iff.mpr h.nonempty
  rw [conditionEntries, List.splitOn_eq_singleton h.whole, List.map_singleton, h.trimmed,
    List.filter_singleton, hsome]
  exact congrArg (fun s => [s]) String.ofList_toList

theorem conditionEntries_append {e : String} (h : IsEntry e) (list : String) :
    conditionEntries (e ++ "," ++ list) = e :: conditionEntries list := by
  have hsome : e.toList.isEmpty = false := List.isEmpty_eq_false_iff.mpr h.nonempty
  have hlist : (e ++ "," ++ list).toList = e.toList ++ ',' :: list.toList := by
    rw [String.toList_append, String.toList_append, List.append_assoc]
    rfl
  rw [conditionEntries, hlist, List.splitOn_append_cons_self_of_not_mem h.whole, List.map_cons,
    h.trimmed, List.filter_cons, hsome]
  exact congrArg (· :: conditionEntries list) String.ofList_toList

/-- An entry that gives a condition: it is neither `none` nor a removal. -/
structure GivesCondition (e : String) : Prop extends IsEntry e where
  other : Text.sameFolded e "none" = false
  given : e.toList.head? ≠ some '-'

theorem toList_minus (c : String) : ("-" ++ c).toList = '-' :: c.toList := String.toList_append

theorem trim_minus (cs : List Char) : Text.trim ('-' :: cs) = '-' :: Text.trimEnd cs := by
  have hhyphen : Text.isBlank '-' = false := rfl
  rw [Text.trim, Text.trimStart_cons, hhyphen, if_neg Bool.false_ne_true, Text.trimEnd_cons,
    hhyphen, Bool.and_false, if_neg Bool.false_ne_true]

/-- Every entry takes all conditions away, takes one away or gives one. -/
theorem entry_cases {e : String} (h : IsEntry e) :
    Text.sameFolded e "none" = true ∨ (∃ c, e = "-" ++ c) ∨ GivesCondition e := by
  cases hnone : Text.sameFolded e "none" with
  | true => exact .inl rfl
  | false =>
    by_cases hminus : e.toList.head? = some '-'
    · obtain ⟨rest, hrest⟩ := List.head?_eq_some_iff.mp hminus
      refine .inr (.inl ⟨String.ofList rest, String.toList_inj.mp ?_⟩)
      rw [hrest, toList_minus, String.toList_ofList]
    · exact .inr (.inr ⟨h, hnone, hminus⟩)

theorem GivesCondition.minus {c : String} (h : GivesCondition c) : IsEntry ("-" ++ c) := by
  have hend : Text.trimEnd c.toList = c.toList := by
    conv_lhs => rw [← h.trimmed]
    rw [Text.trim, Text.trimEnd_trimEnd]
    exact h.trimmed
  refine ⟨?_, ?_, ?_⟩
  · rw [toList_minus]
    exact List.cons_ne_nil _ _
  · rw [toList_minus, trim_minus, hend]
  · rw [toList_minus, List.mem_cons, not_or]
    exact ⟨by decide, h.whole⟩

theorem changeCondition_none {e : String} (h : Text.sameFolded e "none" = true)
    (conditions : List String) : changeCondition conditions e = [] := if_pos h

theorem changeCondition_removal (conditions : List String) (c : String) :
    changeCondition conditions ("-" ++ c) = conditions.filter (!Text.sameFolded · c) := by
  have hnone : ¬ Text.sameFolded ("-" ++ c) "none" = true := by
    rw [Text.sameFolded_iff, toList_minus]
    exact fun heq => absurd (List.cons.inj heq).1 (by decide)
  have hafter : Text.after? ['-'] ("-" ++ c).toList = some c.toList := by
    rw [toList_minus]
    rfl
  rw [changeCondition, if_neg hnone, hafter]
  simp only [String.ofList_toList]

theorem changeCondition_given {e : String} (h : GivesCondition e) (conditions : List String) :
    changeCondition conditions e =
      if conditions.any (Text.sameFolded · e) then conditions
      else conditions ++ [Text.lowered e] := by
  have hafter : Text.after? ['-'] e.toList = none := by
    cases hcs : e.toList with
    | nil => rfl
    | cons c cs => exact if_neg fun heq => h.given (by rw [hcs, ← heq]; rfl)
  rw [changeCondition, if_neg (Bool.eq_false_iff.mp h.other), hafter]

/-- The entries that attributes have for conditions. -/
def conditionChanges (attrs : Attributes) : List String :=
  ((attrs.first? ["conditions", "condition"]).map conditionEntries).getD []

theorem withAttributes_conditions (f : Fighter) (attrs : Attributes) :
    (f.withAttributes attrs).conditions =
      (conditionChanges attrs).foldl changeCondition f.conditions := by
  unfold withAttributes conditionChanges
  dsimp only
  cases attrs.first? ["conditions", "condition"] with
  | none => rfl
  | some list => rfl

theorem isEntry_of_mem_changes {e : String} {attrs : Attributes}
    (h : e ∈ conditionChanges attrs) : IsEntry e := by
  unfold conditionChanges at h
  cases hlist : attrs.first? ["conditions", "condition"] with
  | none =>
    rw [hlist] at h
    cases h
  | some list =>
    rw [hlist] at h
    exact isEntry_of_mem h

/-! ## The list as a set -/

/-- With plain case a condition is not given a second time. -/
theorem nodup_changeCondition {conditions : List String} (h : conditions.Nodup) {e : String}
    (he : IsEntry e) (hplain : GivesCondition e → Text.PlainCase e) :
    (changeCondition conditions e).Nodup := by
  rcases entry_cases he with hnone | ⟨c, rfl⟩ | hgives
  · rw [changeCondition_none hnone]
    exact List.nodup_nil
  · rw [changeCondition_removal]
    exact h.filter _
  · rw [changeCondition_given hgives]
    split
    · exact h
    · rename_i hnew
      refine List.nodup_append.mpr ⟨h, List.nodup_singleton _, fun x hx y hy heq => ?_⟩
      rw [heq, List.mem_singleton.mp hy] at hx
      exact hnew (List.any_eq_true.mpr
        ⟨_, hx, Text.sameFolded_lowered_iff.mpr (hplain hgives)⟩)

/-- Without plain case it is. -/
theorem changeCondition_twice {e : String} (h : GivesCondition e) (hplain : ¬ Text.PlainCase e) :
    [e, e].foldl changeCondition [] = [Text.lowered e, Text.lowered e] := by
  have hnew : ¬ Text.sameFolded (Text.lowered e) e = true :=
    fun hsame => hplain (Text.sameFolded_lowered_iff.mp hsame)
  simp only [List.foldl_cons, List.foldl_nil, changeCondition_given h, List.any_nil, List.any_cons,
    Bool.false_eq_true, if_false, List.nil_append, Bool.or_false, if_neg hnew,
    List.singleton_append]

/-- Without plain case a condition stays when it is removed. -/
theorem mem_of_given_removed {c : String} (h : GivesCondition c) (hplain : ¬ Text.PlainCase c) :
    Text.lowered c ∈ [c, "-" ++ c].foldl changeCondition [] := by
  have hother : Text.sameFolded (Text.lowered c) c = false :=
    Bool.eq_false_iff.mpr fun hsame => hplain (Text.sameFolded_lowered_iff.mp hsame)
  simp [changeCondition_given h, changeCondition_removal, hother]

/-- The condition is the lower case of an entry that gives it. -/
def IsGiven (condition : String) : Prop := ∃ e, GivesCondition e ∧ condition = Text.lowered e

theorem isGiven_changeCondition {conditions : List String} (h : ∀ x ∈ conditions, IsGiven x)
    {e : String} (he : IsEntry e) : ∀ x ∈ changeCondition conditions e, IsGiven x := by
  rcases entry_cases he with hnone | ⟨c, rfl⟩ | hgives
  · rw [changeCondition_none hnone]
    exact List.forall_mem_nil _
  · rw [changeCondition_removal]
    exact fun x hx => h x (List.mem_of_mem_filter hx)
  · rw [changeCondition_given hgives]
    split
    · exact h
    · exact List.forall_mem_append.mpr ⟨h, List.forall_mem_singleton.mpr ⟨e, hgives, rfl⟩⟩

/-- A condition does not begin with a mark. -/
theorem head?_of_isGiven {c : String} (h : IsGiven (Text.lowered c)) {d : Char}
    (hd : c.toList.head? = some d) : Text.isMark d = false := by
  obtain ⟨e, he, hlowered⟩ := h
  refine Bool.eq_false_iff.mpr fun hmark => ?_
  have hlower : Text.lower c.toList = Text.lower e.toList := by
    simpa only [Text.lowered, String.ofList_inj] using hlowered
  have hhead : e.toList.head? = some d :=
    Text.head?_of_head?_lower hmark (hlower ▸ Text.head?_lower_of_isMark hmark hd)
  rcases Bool.or_eq_true_iff.mp hmark with hhyphen | hblank
  · exact he.given (eq_of_beq hhyphen ▸ hhead)
  · rw [← he.trimmed] at hhead
    exact absurd hblank (Bool.eq_false_iff.mp (Text.isBlank_of_head?_trim hhead))

/-- What is removed is a condition, or its case is plain, or nobody has it. -/
theorem givesCondition_of_isGiven {c : String} (hminus : IsEntry ("-" ++ c))
    (h : IsGiven (Text.lowered c)) (hplain : ¬ Text.PlainCase c) : GivesCondition c := by
  obtain ⟨-, htrimmed, hwhole⟩ := hminus
  rw [toList_minus] at htrimmed hwhole
  rw [trim_minus, List.cons.injEq] at htrimmed
  refine ⟨⟨fun hempty => hplain ?_, ?_, fun hcomma => hwhole (List.mem_cons_of_mem _ hcomma)⟩,
    Bool.eq_false_iff.mpr fun hnone => hplain ?_, fun hhead => ?_⟩
  · rw [Text.PlainCase, hempty]
    rfl
  · cases hcs : c.toList with
    | nil => rfl
    | cons d rest =>
      have hmark := head?_of_isGiven h (d := d) (by rw [hcs, List.head?_cons])
      have hblank : Text.isBlank d = false := (Bool.or_eq_false_iff.mp hmark).2
      rw [Text.trim, Text.trimStart_cons, hblank, if_neg Bool.false_ne_true, ← hcs, htrimmed.2]
  · exact .of_isAscii (Text.isAscii_of_sameFolded hnone (by decide))
  · exact absurd (head?_of_isGiven h hhead) (by decide)

theorem lowered_not_mem_of_removal {conditions : List String} {c : String}
    (hplain : Text.PlainCase c) :
    Text.lowered c ∉ changeCondition conditions ("-" ++ c) := by
  rw [changeCondition_removal]
  intro hmem
  have hother := (List.mem_filter.mp hmem).2
  rw [Text.sameFolded_lowered_iff.mpr hplain] at hother
  cases hother

end Fighter

namespace Roster

/-! ## Rosters -/

theorem mem_spawn_fighters {sprite : Sprite} {stem : String} {attrs : Attributes} {r : Roster}
    {cells : List Cell} {f : Fighter} (h : f ∈ (r.spawn sprite stem attrs cells).fighters) :
    f ∈ r.fighters ∨ ∃ id cell hp, f = .spawn id sprite cell hp attrs := by
  induction cells generalizing r with
  | nil => exact .inl h
  | cons cell cells ih =>
    rcases ih h with hold | hnew
    · rcases List.mem_append.mp hold with hold | hnew
      · exact .inl hold
      · exact .inr ⟨_, cell, _, List.mem_singleton.mp hnew⟩
    · exact .inr hnew

/-- What all entries of an instruction keep holds for the conditions of all fighters after it. -/
theorem Change.forall_conditions {P : List String → Prop} (hnone : P []) {i : Instruction}
    (hkept : ∀ conditions, P conditions → ∀ e ∈ Fighter.conditionChanges i.given,
      P (Fighter.changeCondition conditions e)) {r r' : Roster} (change : Change i r r')
    (h : ∀ f ∈ r.fighters, P f.conditions) : ∀ f ∈ r'.fighters, P f.conditions := by
  have hfold : ∀ entries ⊆ Fighter.conditionChanges i.given, ∀ conditions, P conditions →
      P (entries.foldl Fighter.changeCondition conditions) := by
    intro entries hsub
    induction entries with
    | nil => exact fun _ hconditions => hconditions
    | cons e entries ih =>
      obtain ⟨he, hsub⟩ := List.cons_subset.mp hsub
      exact fun conditions hconditions => ih hsub _ (hkept conditions hconditions e he)
  have haltered : ∀ f : Fighter, P f.conditions → P (f.withAttributes i.given).conditions := by
    intro f hf
    rw [Fighter.withAttributes_conditions]
    exact hfold _ (List.Subset.refl _) _ hf
  cases change with
  | @spawned reference sprite sprites found stem cells =>
    intro f hf
    rcases mem_spawn_fighters hf with hold | ⟨id, cell, hp, rfl⟩
    · exact h f hold
    · exact haltered _ hnone
  | altered id => exact forall_mem_updateFirst h haltered
  | sent id cell => exact forall_mem_updateFirst h fun _ hf => hf
  | removed id => exact fun f hf => h f (List.mem_of_mem_filter hf)
  | cleared settles => exact List.forall_mem_nil _
  | wiped settles => exact List.forall_mem_nil _
  | _ => exact h

/-- The rosters that turns lead to, and instructions with allowed entries for conditions only. -/
inductive Told (allowed : String → Prop) (settings : Settings) : Roster → Prop where
  | empty : Told allowed settings (.empty settings)
  | follow {r : Roster} (i : Instruction)
      (entries : ∀ e ∈ Fighter.conditionChanges i.given, allowed e) (h : Told allowed settings r) :
      Told allowed settings (r.follow i)
  | nextTurn {r : Roster} (h : Told allowed settings r) : Told allowed settings r.nextTurn

section Told

variable {allowed : String → Prop} {settings : Settings} {r : Roster}

theorem Told.attained (h : Told allowed settings r) : Attained settings r := by
  induction h with
  | empty => exact .empty
  | follow i entries _ ih => exact ih.follow i
  | nextTurn _ ih => exact ih.nextTurn

theorem Attained.told (h : Attained settings r) : Told (fun _ => True) settings r := by
  induction h with
  | empty => exact .empty
  | follow i _ ih => exact ih.follow i fun _ _ => trivial
  | nextTurn _ ih => exact ih.nextTurn

theorem Told.forall_conditions (h : Told allowed settings r) {P : List String → Prop}
    (hnone : P []) (hkept : ∀ conditions, P conditions → ∀ e, Fighter.IsEntry e → allowed e →
      P (Fighter.changeCondition conditions e)) : ∀ f ∈ r.fighters, P f.conditions := by
  induction h with
  | empty => exact List.forall_mem_nil _
  | @follow r i entries _ ih =>
    refine (r.change_follow i).forall_conditions hnone (fun conditions hconditions e he => ?_) ih
    exact hkept conditions hconditions e (Fighter.isEntry_of_mem_changes he) (entries e he)
  | @nextTurn r _ ih =>
    exact r.nextTurn_cases (P := fun r' => ∀ f ∈ r'.fighters, P f.conditions) ih fun _ _ => ih

theorem Attained.isGiven (h : Attained settings r) :
    ∀ f ∈ r.fighters, ∀ condition ∈ f.conditions, Fighter.IsGiven condition :=
  h.told.forall_conditions (P := fun conditions => ∀ x ∈ conditions, Fighter.IsGiven x)
    (List.forall_mem_nil _) fun _ hconditions _ he _ =>
      Fighter.isGiven_changeCondition hconditions he

end Told

/-! ## Removals -/

/-- A token that has been changed is found again under the same reference. -/
theorem fighter?_follow_state {r : Roster} {attrs : Attributes} {reference : String} {f : Fighter}
    (href : attrs.first? ["id", "token"] = some reference) (hf : r.fighter? reference = some f) :
    (r.follow (.state attrs)).fighter? reference = some (f.withAttributes attrs) := by
  rw [follow_state href hf]
  simp only [fighter?, Option.orElse_eq_orElse, Option.orElse_eq_or, Option.or_eq_some_iff] at hf ⊢
  rcases hf with hexact | ⟨hnone, hbeginning⟩
  · obtain ⟨id, hid, hfind⟩ := Option.bind_eq_some_iff.mp hexact
    obtain rfl : f.id = id := by simpa using List.find?_some hfind
    refine .inl ?_
    rw [hid, Option.bind_some]
    exact find?_updateFirst hfind (beq_self_eq_true f.id)
  · refine .inr ⟨?_, ?_⟩
    · cases hid : TokenId.ofText? reference with
      | none => rfl
      | some id =>
        rw [hid, Option.bind_some, List.find?_eq_none] at hnone
        rw [Option.bind_some, List.find?_eq_none]
        exact forall_mem_updateFirst hnone fun _ hother => hother
    · split at hbeginning
      · rename_i hon
        rw [if_pos hon]
        have hbegins : f.id.beginsWith reference = true := by simpa using List.find?_some hbeginning
        refine find?_updateFirst_of_imp hbeginning (beq_self_eq_true f.id) (fun g hg => ?_) hbegins
        rwa [eq_of_beq hg]
      · cases hbeginning

/-- No `STATE` with the removal of `c` as the last entry for conditions leaves its token with the
condition `c`. -/
def Removes (settings : Settings) (c : String) : Prop :=
  ∀ r, Attained settings r → ∀ (attrs : Attributes) (reference : String) (f : Fighter),
    attrs.first? ["id", "token"] = some reference → r.fighter? reference = some f →
    (Fighter.conditionChanges attrs).getLast? = some ("-" ++ c) →
    ∃ f', (r.follow (.state attrs)).fighter? reference = some f' ∧ f'.id = f.id ∧
      Text.lowered c ∉ f'.conditions

/-! ## A goblin for examples -/

section Goblin

variable (settings : Settings)

def loneGoblin : Roster := (empty settings).follow (.place "goblin" [⟨0, 0⟩])

theorem exists_loneGoblin : ∃ f, (loneGoblin settings).fighter? "goblin-1" = some f ∧
    (loneGoblin settings).fighters = [f] ∧ f.conditions = [] := by
  have hknown : (Sprite.resolve? [] "goblin").isSome = true := by decide +kernel
  obtain ⟨⟨sprite, sprites⟩, hfound⟩ := Option.isSome_iff_exists.mp hknown
  have hid : TokenId.ofText? "goblin-1" = some (TokenId.next "goblin" []) := by decide +kernel
  rw [loneGoblin, follow_place hfound]
  refine ⟨.spawn (TokenId.next "goblin" []) sprite ⟨0, 0⟩ settings.combat.defaultHp ∅, ?_, rfl, rfl⟩
  rw [fighter?, hid, Option.bind_some, Option.orElse_eq_orElse, Option.orElse_eq_or]
  have hfind : [Fighter.spawn (TokenId.next "goblin" []) sprite ⟨0, 0⟩ settings.combat.defaultHp
      ∅].find? (·.id == TokenId.next "goblin" []) = some _ :=
    List.find?_cons_of_pos (beq_self_eq_true _)
  exact congrArg (Option.or · _) hfind

theorem told_loneGoblin (allowed : String → Prop) : Told allowed settings (loneGoblin settings) :=
  .follow _ (List.forall_mem_nil _) .empty

/-- What tells the goblin its conditions. -/
def goblinState (list : String) : Attributes :=
  ((∅ : Attributes).insert "id" "goblin-1").insert "conditions" list

theorem goblinState_first? (list : String) :
    (goblinState list).first? ["id", "token"] = some "goblin-1" ∧
      Fighter.conditionChanges (goblinState list) = Fighter.conditionEntries list := by
  have hid : (goblinState list).get? "id" = some "goblin-1" := by
    rw [goblinState, Dict.get?_insert, if_neg (by decide), Dict.get?_insert, if_pos (by decide)]
  have hconditions : (goblinState list).get? "conditions" = some list := by
    rw [goblinState, Dict.get?_insert, if_pos (by decide)]
  constructor
  · rw [Attributes.first?, List.findSome?_cons, hid]
  · rw [Fighter.conditionChanges, Attributes.first?, List.findSome?_cons, hconditions]
    rfl

end Goblin

/-! ## The conditions as a set -/

theorem nodup_conditions_iff (settings : Settings) (allowed : String → Prop) :
    (∀ r, Told allowed settings r → ∀ f ∈ r.fighters, f.conditions.Nodup) ↔
      ∀ e, allowed e → Fighter.GivesCondition e → Text.PlainCase e := by
  constructor
  · intro hnodup e hallowed hgives
    by_contra hplain
    -- the entry is given twice to a goblin
    obtain ⟨f, hf, hfighters, hnone⟩ := exists_loneGoblin settings
    obtain ⟨href, hchanges⟩ := goblinState_first? (e ++ "," ++ e)
    rw [Fighter.conditionEntries_append hgives.toIsEntry,
      Fighter.conditionEntries_of_isEntry hgives.toIsEntry] at hchanges
    have htold := (told_loneGoblin settings allowed).follow
      (.state (goblinState (e ++ "," ++ e))) fun e' he' => by
        rw [Instruction.given, hchanges] at he'
        rcases List.mem_pair.mp he' with rfl | rfl
        · exact hallowed
        · exact hallowed
    have hmem : f.withAttributes (goblinState (e ++ "," ++ e)) ∈
        ((loneGoblin settings).follow (.state (goblinState (e ++ "," ++ e)))).fighters := by
      rw [follow_state href hf, hfighters]
      simp [updateFirst]
    have htwice := hnodup _ htold _ hmem
    rw [Fighter.withAttributes_conditions, hchanges, hnone,
      Fighter.changeCondition_twice hgives hplain] at htwice
    exact absurd htwice (by simp)
  · intro hplain r hr
    refine hr.forall_conditions List.nodup_nil fun _ hnodup e he hallowed => ?_
    exact Fighter.nodup_changeCondition hnodup he (hplain e hallowed)

theorem removes_iff (settings : Settings) (c : String) :
    Removes settings c ↔ (Fighter.GivesCondition c → Text.PlainCase c) := by
  constructor
  · intro hremoves hgives
    by_contra hplain
    -- the condition is given to a goblin, and the removal is the next entry
    obtain ⟨f, hf, hfighters, hnone⟩ := exists_loneGoblin settings
    have hminus : Fighter.IsEntry ("-" ++ c) := hgives.minus
    obtain ⟨href, hchanges⟩ := goblinState_first? (c ++ "," ++ ("-" ++ c))
    rw [Fighter.conditionEntries_append hgives.toIsEntry,
      Fighter.conditionEntries_of_isEntry hminus] at hchanges
    obtain ⟨f', hf', -, hgone⟩ := hremoves _ (told_loneGoblin settings fun _ => True).attained
      (goblinState (c ++ "," ++ ("-" ++ c))) _ f href hf (by rw [hchanges]; rfl)
    rw [fighter?_follow_state href hf, Option.some.injEq] at hf'
    rw [← hf', Fighter.withAttributes_conditions, hchanges, hnone] at hgone
    exact hgone (Fighter.mem_of_given_removed hgives hplain)
  · intro hplain r hr attrs reference f href hf hlast
    have hf' := fighter?_follow_state href hf
    refine ⟨f.withAttributes attrs, hf', rfl, fun hmem => ?_⟩
    obtain ⟨before, hbefore⟩ := List.getLast?_eq_some_iff.mp hlast
    by_cases hcase : Text.PlainCase c
    · rw [Fighter.withAttributes_conditions, hbefore, List.foldl_append] at hmem
      exact Fighter.lowered_not_mem_of_removal hcase hmem
    · -- nobody has a condition that no entry gives
      have hgiven := (hr.follow (.state attrs)).isGiven _ (mem_of_fighter? hf') _ hmem
      have hminus := Fighter.isEntry_of_mem_changes (List.mem_of_getLast? hlast)
      exact hcase (hplain (Fighter.givesCondition_of_isGiven hminus hgiven hcase))

/-- The conditions of every fighter are a set in all rosters that turns and instructions with
allowed entries lead to, if and only if the lower case of all allowed entries that give a condition
is plain. A removal at the end of the entries leaves no token with its condition, exactly if the
lower case of the condition is plain or it is none that an entry gives. -/
theorem conditions_form_set_iff (settings : Settings) :
    (∀ allowed : String → Prop,
      (∀ r, Told allowed settings r → ∀ f ∈ r.fighters, f.conditions.Nodup) ↔
        ∀ e, allowed e → Fighter.GivesCondition e → Text.PlainCase e) ∧
      ∀ c, Removes settings c ↔ (Fighter.GivesCondition c → Text.PlainCase c) :=
  ⟨nodup_conditions_iff settings, removes_iff settings⟩

/-- A goblin is told in ASCII that it is prone, in several spellings and next to other things. -/
theorem conditions_form_set_prone :
    ∃ r : Roster, Told Text.IsAscii {} r ∧
      r.fighters.map (·.conditions) = [["poisoned", "prone"]] ∧
      (∀ f ∈ r.fighters, f.conditions.Nodup) ∧ Removes {} "Prone" := by
  obtain ⟨hset, hremoves⟩ := conditions_form_set_iff {}
  let attrs := goblinState "dazed, none,Poisoned,prone,POISONED,PRONE,-prone, Prone"
  have hentries : ∀ e ∈ Fighter.conditionChanges attrs, Text.IsAscii e := by decide +kernel
  have htold := (told_loneGoblin {} Text.IsAscii).follow (.state attrs) hentries
  refine ⟨_, htold, by decide +kernel, ?_, (hremoves "Prone").mpr fun _ => by decide⟩
  exact (hset Text.IsAscii).mpr (fun _ hascii _ => .of_isAscii hascii) _ htold

/-- A goblin is told twice that it is dazed, in a word with an accent on a capital, and then that it
is not. -/
theorem conditions_twice_accent :
    ∃ r, Attained {} r ∧ r.fighters.map (·.conditions) = [["étourdi", "étourdi"]] ∧
      (r.follow (.state (goblinState "-Étourdi"))).fighters.map (·.conditions) =
        [["étourdi", "étourdi"]] :=
  ⟨_, (told_loneGoblin {} fun _ => True).attained.follow
    (.state (goblinState "Étourdi,Étourdi")), by decide +kernel, by decide +kernel⟩

end Roster

end Tabletop
