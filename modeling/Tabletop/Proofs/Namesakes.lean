import Tabletop.Proofs.Suggestions

/-!
# Attacks of one name

A suggestion names the attack that reaches the opponent, and what is ordered is the attack that is
found by this name. Attacks may have the same name up to case. Then it is the first of them that is
found, whichever it was that reaches.

* `Attack.Named` is the kind that a list of attacks gives to a name.
* `Roster.suggested_kind_iff`: the attack that is ordered has the kind of the suggested one if and
  only if the first attack of its name has it.
-/

namespace Tabletop

/-- The kind that attacks give to a name: that of the first one of the name, without regard to case,
and physical if there is none. -/
inductive Attack.Named (attacks : List Attack) (name : String) : AttackKind → Prop where
  | first {before after : List Attack} {found : Attack} (split : attacks = before ++ found :: after)
      (named : Text.sameFolded found.name name = true)
      (others : ∀ a ∈ before, Text.sameFolded a.name name = false) : Named attacks name found.kind
  | unknown (others : ∀ a ∈ attacks, Text.sameFolded a.name name = false) :
      Named attacks name .physical

namespace Roster

theorem attackKind_eq_iff {f : Fighter} {name : String} {kind : AttackKind} :
    attackKind f name = kind ↔ Attack.Named f.attacks name kind := by
  rw [attackKind]
  constructor
  · rintro rfl
    cases hfound : f.attacks.find? (Text.sameFolded ·.name name) with
    | none =>
      exact .unknown fun a ha => Bool.not_eq_true _ ▸ List.find?_eq_none.mp hfound a ha
    | some found =>
      obtain ⟨hnamed, before, after, hsplit, hothers⟩ := List.find?_eq_some_iff_append.mp hfound
      exact .first hsplit hnamed fun a ha => by simpa using hothers a ha
  · intro h
    cases h with
    | first split named others =>
      have hfound : f.attacks.find? (Text.sameFolded ·.name name) = some _ :=
        List.find?_eq_some_iff_append.mpr
          ⟨named, _, _, split, fun a ha => by simpa using others a ha⟩
      rw [hfound]
      rfl
    | unknown others =>
      have hfound : f.attacks.find? (Text.sameFolded ·.name name) = none :=
        List.find?_eq_none.mpr fun a ha => Bool.not_eq_true _ ▸ others a ha
      rw [hfound]
      rfl

theorem instructionsFor_attack {r : Roster} {attacker target name : String}
    (h : r.instructionsFor (.attack attacker target name) ≠ []) :
    ∃ a t, r.fighter? attacker = some a ∧ r.fighter? target = some t ∧
      r.instructionsFor (.attack attacker target name) =
        [.attack a.id.text t.id.text (attackKind a name) none none] := by
  rw [instructionsFor] at h ⊢
  split at h
  · rename_i a t ha ht
    exact ⟨a, t, ha, ht, rfl⟩
  · exact absurd rfl h

/-- The attack that reaches the nearest opponent is suggested. If that comes to an instruction, it is
an attack by the fighter to whom the id leads, who is the one with the turn where ids are only found
as a whole. It has the kind of the suggested attack if and only if the first attack of that name has
it. -/
theorem suggested_kind_iff {r : Roster} {f target : Fighter} {attack : Attack}
    (hactive : r.activeFighter? = some f) (htarget : r.nearestOpponent? f = some target)
    (hattack : f.attacks.find? (·.reach.covers (r.distance f target)) = some attack) :
    let intent := Intent.attack f.id.text target.id.text attack.name
    intent ∈ r.advice.suggestions.map (·.intent) ∧
      (r.instructionsFor intent ≠ [] → ∃ a t kind, r.fighter? f.id.text = some a ∧
        r.fighter? target.id.text = some t ∧ (r.settings.byBeginning = false → a = f) ∧
        r.instructionsFor intent = [.attack a.id.text t.id.text kind none none] ∧
        (kind = attack.kind ↔ Attack.Named a.attacks attack.name attack.kind)) := by
  intro intent
  constructor
  · have hsuggested : (r.approach f target).intent = intent := approach_intent_of_some hattack
    rw [advice, hactive, ← hsuggested]
    refine List.mem_map_of_mem (List.mem_append_left _ ?_)
    rw [htarget]
    exact List.mem_singleton_self _
  · intro horders
    obtain ⟨a, t, ha, ht, hordered⟩ := instructionsFor_attack horders
    refine ⟨a, t, attackKind a attack.name, ha, ht, fun hexact => ?_, hordered, attackKind_eq_iff⟩
    obtain ⟨reference, -, hf⟩ := Option.bind_eq_some_iff.mp hactive
    rw [fighter?_text hexact hf] at ha
    exact (Option.some.inj ha).symm

/-- Of three attacks the second one reaches the goblin, and the third one has the same name. -/
theorem suggested_kind_iff_bolt :
    ∃ (r : Roster) (f target : Fighter) (bolt : Attack), r.activeFighter? = some f ∧
      r.nearestOpponent? f = some target ∧
      f.attacks.map (fun a => (a.name, a.kind)) =
        [("Staff", .physical), ("Bolt", .magic), ("bolt", .physical)] ∧
      f.attacks.find? (·.reach.covers (r.distance f target)) = some bolt ∧ bolt.kind = .magic ∧
      Attack.Named f.attacks bolt.name bolt.kind ∧
      r.instructionsFor (.attack f.id.text target.id.text bolt.name) =
        [.attack f.id.text target.id.text .magic none none] := by
  let batch : List Instruction :=
    [.spriteDef "M"
        (.ofList [("faction", "pc"), ("attacks", "Staff;Bolt|spell|0||2/9;bolt||||2/9")]),
      .place "M" [⟨0, 0⟩], .place "goblin" [⟨2, 0⟩]]
  let staff : Attack := ⟨"Staff", "melee", 0, "", .touch⟩
  let bolt : Attack := ⟨"Bolt", "spell", 0, "", ⟨2, 9⟩⟩
  let throw : Attack := ⟨"bolt", "melee", 0, "", ⟨2, 9⟩⟩
  let f : Fighter := ⟨⟨"M", 1⟩, "M", "pc", 10, 10, ⟨0, 0⟩, 30, [staff, bolt, throw], []⟩
  let target : Fighter := Fighter.spawn ⟨"goblin", 1⟩ (.ofArchetype .goblin) ⟨2, 0⟩ 10 ∅
  obtain ⟨r, hr⟩ : ∃ r, r = ((empty {}).apply batch).1 := ⟨_, rfl⟩
  have hactive : r.activeFighter? = some f := hr ▸ by decide +kernel
  have htarget : r.nearestOpponent? f = some target := hr ▸ by decide +kernel
  have hattack : f.attacks.find? (·.reach.covers (r.distance f target)) = some bolt :=
    hr ▸ by decide +kernel
  have hagain : r.fighter? target.id.text = some target := hr ▸ by decide +kernel
  have hbolt : bolt.kind = .magic := by decide +kernel
  have hnamed : Attack.Named f.attacks bolt.name bolt.kind :=
    @Attack.Named.first _ _ [staff] [throw] bolt rfl (by decide) (by decide)
  obtain ⟨-, hcarried⟩ := suggested_kind_iff hactive htarget hattack
  obtain ⟨a, t, kind, -, ht, hself, hordered, hkind⟩ := hcarried (hr ▸ by decide +kernel)
  have ha : a = f := hself (hr ▸ by decide +kernel)
  have ht : t = target := Option.some.inj (ht.symm.trans hagain)
  have hmagic : kind = .magic := (hkind.mpr (ha ▸ hnamed)).trans hbolt
  rw [ha, ht, hmagic] at hordered
  exact ⟨r, f, target, bolt, hactive, htarget, by decide +kernel, hattack, hbolt, hnamed, hordered⟩

/-- A bolt from afar is suggested and a blow with the bolt ordered. -/
theorem suggested_kind_lost :
    ∃ (r : Roster) (f target : Fighter) (bolt : Attack), Attained {} r ∧
      r.activeFighter? = some f ∧ r.nearestOpponent? f = some target ∧
      f.attacks.find? (·.reach.covers (r.distance f target)) = some bolt ∧ bolt.kind = .magic ∧
      .attack f.id.text target.id.text bolt.name ∈ r.advice.suggestions.map (·.intent) ∧
      r.instructionsFor (.attack f.id.text target.id.text bolt.name) =
        [.attack "M-1" "goblin-1" .physical none none] := by
  let batch : List Instruction :=
    [.spriteDef "M" (.ofList [("faction", "pc"), ("attacks", "Bolt|melee;bolt|spell|0||2/9")]),
      .place "M" [⟨0, 0⟩], .place "goblin" [⟨2, 0⟩]]
  let blow : Attack := ⟨"Bolt", "melee", 0, "", .touch⟩
  let bolt : Attack := ⟨"bolt", "spell", 0, "", ⟨2, 9⟩⟩
  let f : Fighter := ⟨⟨"M", 1⟩, "M", "pc", 10, 10, ⟨0, 0⟩, 30, [blow, bolt], []⟩
  let target : Fighter := Fighter.spawn ⟨"goblin", 1⟩ (.ofArchetype .goblin) ⟨2, 0⟩ 10 ∅
  exact ⟨((empty {}).apply batch).1, f, target, bolt, Attained.empty.apply batch,
    by decide +kernel, by decide +kernel, by decide +kernel, by decide +kernel, by decide +kernel,
    by decide +kernel⟩

end Roster

end Tabletop
