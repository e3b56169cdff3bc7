import Mathlib.Data.List.Nodup
import Tabletop.Advice
import Tabletop.Proofs.Grid
import Tabletop.Proofs.Letters
import Tabletop.Proofs.Turns

/-!
# What is suggested

A fighter fights the nearest opponent: with the first attack that reaches it, or by going toward it.

* `Fights`: the one faction is friendly and the other hostile, without regard to case. Factions in a
  roster are lower case, so a look-up in `Roster.opposing` tells the same.
* `Roster.Nearest`: no opponent is nearer, and no older one as near.
* `Roster.Decision` is the rule, for any measure of how far away a fighter is.
* `Roster.Counted`: the distance of the opponent has not wrapped around, or it does no harm.
* `Roster.suggestions_decide`: what is suggested goes by the rule for the distances. It goes by the
  rule for the cells that are between if and only if the opponent is counted.
-/

namespace Tabletop

/-! ## Factions -/

/-- The faction is one of the side, without regard to case. -/
def OnSide (side : List String) (faction : String) : Prop :=
  ∃ name ∈ side, Text.sameFolded faction name = true

/-- The factions are on different sides. -/
def Fights (a b : String) : Prop :=
  OnSide Roster.friendly a ∧ OnSide Roster.hostile b ∨
    OnSide Roster.hostile a ∧ OnSide Roster.friendly b

instance (side : List String) (faction : String) : Decidable (OnSide side faction) :=
  inferInstanceAs (Decidable (∃ name ∈ side, Text.sameFolded faction name = true))

instance (a b : String) : Decidable (Fights a b) :=
  inferInstanceAs (Decidable (_ ∨ _))

namespace Roster

theorem folded_friendly : ∀ name ∈ friendly, Text.Folded name := by decide

theorem folded_hostile : ∀ name ∈ hostile, Text.Folded name := by decide

theorem contains_iff_onSide {side : List String} (hside : ∀ name ∈ side, Text.Folded name)
    (faction : String) :
    side.contains (String.ofList (Text.foldAscii faction.toList)) = true ↔ OnSide side faction := by
  have hsame : ∀ name ∈ side, String.ofList (Text.foldAscii faction.toList) = name ↔
      Text.sameFolded faction name = true := by
    intro name hname
    rw [Text.sameFolded_iff, hside name hname, ← String.toList_inj, String.toList_ofList]
  rw [List.contains_iff_mem]
  constructor
  · intro hmem
    exact ⟨_, hmem, (hsame _ hmem).mp rfl⟩
  · rintro ⟨name, hname, hfaction⟩
    rw [(hsame name hname).mpr hfaction]
    exact hname

theorem contains_folded_iff {side : List String} (hside : ∀ name ∈ side, Text.Folded name)
    {faction : String} (hfaction : Text.Folded faction) :
    side.contains faction = true ↔ OnSide side faction := by
  rw [← contains_iff_onSide hside, hfaction, String.ofList_toList]

/-- Nobody is on both sides. -/
theorem not_onSide_hostile {faction : String} (h : OnSide friendly faction) :
    ¬ OnSide hostile faction := by
  have hdisjoint : ∀ a ∈ friendly, ∀ b ∈ hostile, Text.sameFolded a b = false := by decide
  obtain ⟨a, ha, hsame⟩ := h
  rintro ⟨b, hb, hsame'⟩
  rw [Text.sameFolded_iff] at hsame hsame'
  have hboth : Text.sameFolded a b = true := Text.sameFolded_iff.mpr (hsame.symm.trans hsame')
  rw [hdisjoint a ha b hb] at hboth
  cases hboth

theorem opposing_contains_iff {a b : String} (hb : Text.Folded b) :
    (opposing a).contains b = true ↔ Fights a b := by
  have hfriendly_iff := contains_iff_onSide folded_friendly a
  have hhostile_iff := contains_iff_onSide folded_hostile a
  rw [opposing, Fights]
  by_cases hfriendly : OnSide friendly a
  · have hhostile := not_onSide_hostile hfriendly
    rw [if_pos (hfriendly_iff.mpr hfriendly), contains_folded_iff folded_hostile hb]
    simp only [hfriendly, hhostile, true_and, false_and, or_false]
  · rw [if_neg (mt hfriendly_iff.mp hfriendly)]
    by_cases hhostile : OnSide hostile a
    · rw [if_pos (hhostile_iff.mpr hhostile), contains_folded_iff folded_friendly hb]
      simp only [hfriendly, hhostile, true_and, false_and, false_or]
    · rw [if_neg (mt hhostile_iff.mp hhostile)]
      simp only [hfriendly, hhostile, false_and, or_false, List.contains_nil, Bool.false_eq_true]

theorem folded_library : ∀ a ∈ Archetype.library, Text.Folded a.faction := by decide

/-- A faction that is given is taken over in lower case. -/
theorem folded_given (given : Option String) {faction : String} (h : Text.Folded faction) :
    Text.Folded ((given.map Text.lowered).getD faction) := by
  cases given with
  | none => exact h
  | some given => exact Text.folded_lowered given

/-- Factions are lower case wherever they come from. -/
theorem heritable_folded :
    Heritable (fun s => Text.Folded s.faction) fun f => Text.Folded f.faction where
  builtIn := folded_library
  declared code attrs := by
    refine folded_given _ ?_
    cases htemplate : (attrs.get? "template").bind Archetype.find? with
    | none => exact (by decide : Text.Folded "neutral")
    | some a =>
      obtain ⟨_, -, hfind⟩ := Option.bind_eq_some_iff.mp htemplate
      exact folded_library a (List.mem_of_find?_eq_some hfind)
  spawned hsprite _ _ _ _ := folded_given _ hsprite
  altered hf _ := folded_given _ hf
  sent hf _ := hf

end Roster

/-! ## The first of the least -/

/-- The first one with the least measure: those before it have more, and those after it no less. -/
def Least {α : Type} (measure : α → Nat) (as : List α) (a : α) : Prop :=
  ∃ before after, as = before ++ a :: after ∧
    (∀ b ∈ before, measure a < measure b) ∧ ∀ b ∈ after, measure a ≤ measure b

section Least

variable {α : Type} {measure : α → Nat} {as : List α} {a b : α}

theorem Least.mem (h : Least measure as a) : a ∈ as := by
  obtain ⟨before, after, rfl, -, -⟩ := h
  exact List.mem_append_right before List.mem_cons_self

theorem Least.le (h : Least measure as a) : ∀ b ∈ as, measure a ≤ measure b := by
  obtain ⟨before, after, rfl, hbefore, hafter⟩ := h
  intro b hb
  rcases List.mem_append.mp hb with hb | hb
  · exact (hbefore b hb).le
  · rcases List.mem_cons.mp hb with rfl | hb
    · exact le_rfl
    · exact hafter b hb

theorem least_cons_iff :
    Least measure (b :: as) a ↔
      (a = b ∧ ∀ c ∈ as, measure b ≤ measure c) ∨ (Least measure as a ∧ measure a < measure b) := by
  constructor
  · rintro ⟨before, after, hsplit, hbefore, hafter⟩
    cases before with
    | nil =>
      cases hsplit
      exact .inl ⟨rfl, hafter⟩
    | cons _ before =>
      cases hsplit
      obtain ⟨hfirst, hbefore⟩ := List.forall_mem_cons.mp hbefore
      exact .inr ⟨⟨before, after, rfl, hbefore, hafter⟩, hfirst⟩
  · rintro (⟨rfl, hafter⟩ | ⟨⟨before, after, rfl, hbefore, hafter⟩, hfirst⟩)
    · exact ⟨[], as, rfl, List.forall_mem_nil _, hafter⟩
    · exact ⟨b :: before, after, rfl, List.forall_mem_cons.mpr ⟨hfirst, hbefore⟩, hafter⟩

theorem Roster.leastBy_eq_none_iff : leastBy measure as = none ↔ as = [] := by
  cases as with
  | nil => exact iff_of_true rfl rfl
  | cons a rest =>
    refine iff_of_false ?_ (List.cons_ne_nil a rest)
    rw [leastBy]
    split
    · exact Option.some_ne_none a
    · split
      · exact Option.some_ne_none _
      · exact Option.some_ne_none _

theorem Roster.leastBy_eq_some_iff : leastBy measure as = some a ↔ Least measure as a := by
  induction as generalizing a with
  | nil => exact iff_of_false (Option.some_ne_none a).symm fun h => List.not_mem_nil h.mem
  | cons b rest ih =>
    rw [leastBy, least_cons_iff, ← ih]
    cases hrest : leastBy measure rest with
    | none =>
      obtain rfl := leastBy_eq_none_iff.mp hrest
      simp only [Option.some.injEq, List.not_mem_nil, false_implies, implies_true, and_true,
        reduceCtorEq, false_and, or_false, eq_comm]
    | some c =>
      have hc := ih.mp hrest
      dsimp only
      split
      · rename_i hle
        constructor
        · rintro ⟨⟩
          exact .inl ⟨rfl, fun d hd => hle.trans (hc.le d hd)⟩
        · rintro (⟨rfl, -⟩ | ⟨⟨⟩, hlt⟩)
          · rfl
          · exact absurd hlt hle.not_gt
      · rename_i hlt
        constructor
        · rintro ⟨⟩
          exact .inr ⟨rfl, Nat.lt_of_not_le hlt⟩
        · rintro (⟨rfl, hle⟩ | ⟨heq, -⟩)
          · exact absurd (hle c hc.mem) hlt
          · exact heq

theorem least_filter_iff {p : α → Bool} :
    Least measure (as.filter p) a ↔ p a = true ∧ ∃ before after, as = before ++ a :: after ∧
      (∀ b ∈ before, p b = true → measure a < measure b) ∧
        ∀ b ∈ after, p b = true → measure a ≤ measure b := by
  constructor
  · rintro ⟨before, after, hsplit, hbefore, hafter⟩
    obtain ⟨front, back, rfl, rfl, hback⟩ := List.filter_eq_append_iff.mp hsplit
    obtain ⟨skipped, rest, rfl, hskipped, ha, rfl⟩ := List.filter_eq_cons_iff.mp hback
    refine ⟨ha, front ++ skipped, rest, by simp, fun b hb hp => ?_, fun b hb hp => ?_⟩
    · rcases List.mem_append.mp hb with hb | hb
      · exact hbefore b (List.mem_filter.mpr ⟨hb, hp⟩)
      · exact absurd hp (hskipped b hb)
    · exact hafter b (List.mem_filter.mpr ⟨hb, hp⟩)
  · rintro ⟨ha, before, after, rfl, hbefore, hafter⟩
    refine ⟨before.filter p, after.filter p, ?_, fun b hb => ?_, fun b hb => ?_⟩
    · rw [List.filter_append, List.filter_cons_of_pos ha]
    · obtain ⟨hb, hp⟩ := List.mem_filter.mp hb
      exact hbefore b hb hp
    · obtain ⟨hb, hp⟩ := List.mem_filter.mp hb
      exact hafter b hb hp

end Least

/-! ## The nearest opponent -/

/-- The fighters are on different sides, and the other one has hit points left. -/
structure Foe (f t : Fighter) : Prop where
  standing : 0 < t.hp
  fights : Fights f.faction t.faction

theorem foe_iff {f t : Fighter} : Foe f t ↔ 0 < t.hp ∧ Fights f.faction t.faction :=
  ⟨fun h => ⟨h.standing, h.fights⟩, fun h => ⟨h.1, h.2⟩⟩

instance (f t : Fighter) : Decidable (Foe f t) := decidable_of_iff' _ foe_iff

namespace Roster

variable {r : Roster} {away : Fighter → Nat} {f target : Fighter}

/-- The opponent is the first one that is as near: older ones are further away, and younger ones are
no nearer. -/
structure Nearest (r : Roster) (away : Fighter → Nat) (f target : Fighter) : Prop where
  foe : Foe f target
  first : ∃ older younger, r.fighters = older ++ target :: younger ∧
    (∀ t ∈ older, Foe f t → away target < away t) ∧
      ∀ t ∈ younger, Foe f t → away target ≤ away t

namespace Nearest

theorem mem (h : r.Nearest away f target) : target ∈ r.fighters := by
  obtain ⟨older, younger, hfighters, -, -⟩ := h.first
  exact hfighters ▸ List.mem_append_right older List.mem_cons_self

theorem le (h : r.Nearest away f target) : ∀ t ∈ r.fighters, Foe f t → away target ≤ away t := by
  obtain ⟨older, younger, hfighters, holder, hyounger⟩ := h.first
  intro t ht hfoe
  rw [hfighters] at ht
  rcases List.mem_append.mp ht with ht | ht
  · exact (holder t ht hfoe).le
  · rcases List.mem_cons.mp ht with rfl | ht
    · exact le_rfl
    · exact hyounger t ht hfoe

/-- Another measure has the same nearest opponent if it puts no opponent on the other side of it. -/
theorem congr {away' : Fighter → Nat} (h : r.Nearest away f target)
    (hlt : ∀ t ∈ r.fighters, Foe f t → away target < away t → away' target < away' t)
    (hle : ∀ t ∈ r.fighters, Foe f t → away target ≤ away t → away' target ≤ away' t) :
    r.Nearest away' f target := by
  obtain ⟨older, younger, hfighters, holder, hyounger⟩ := h.first
  refine ⟨h.foe, older, younger, hfighters, fun t ht hfoe => ?_, fun t ht hfoe => ?_⟩
  · exact hlt t (hfighters ▸ List.mem_append_left _ ht) hfoe (holder t ht hfoe)
  · refine hle t (hfighters ▸ List.mem_append_right _ ?_) hfoe (hyounger t ht hfoe)
    exact List.mem_cons_of_mem _ ht

end Nearest

theorem nearestOpponent?_eq (hfolded : ∀ t ∈ r.fighters, Text.Folded t.faction) (f : Fighter) :
    r.nearestOpponent? f = leastBy (r.distance f) (r.fighters.filter fun t => Foe f t) := by
  rw [nearestOpponent?]
  congr 1
  refine List.filter_congr fun t ht => ?_
  rw [Bool.eq_iff_iff, Bool.and_eq_true, decide_eq_true_iff, decide_eq_true_iff, foe_iff,
    opposing_contains_iff (hfolded t ht)]

theorem nearestOpponent?_eq_none_iff (hfolded : ∀ t ∈ r.fighters, Text.Folded t.faction) :
    r.nearestOpponent? f = none ↔ ∀ t ∈ r.fighters, ¬ Foe f t := by
  rw [nearestOpponent?_eq hfolded, leastBy_eq_none_iff, List.filter_eq_nil_iff]
  simp only [decide_eq_true_iff]

theorem nearestOpponent?_eq_some_iff (hfolded : ∀ t ∈ r.fighters, Text.Folded t.faction) :
    r.nearestOpponent? f = some target ↔ r.Nearest (r.distance f) f target := by
  rw [nearestOpponent?_eq hfolded, leastBy_eq_some_iff, least_filter_iff]
  simp only [decide_eq_true_iff]
  exact ⟨fun h => ⟨h.1, h.2⟩, fun h => ⟨h.foe, h.first⟩⟩

end Roster

/-! ## The decision -/

/-- The distance lies in the window of the attack. -/
def Attack.Reaches (a : Attack) (distance : Nat) : Prop :=
  a.reach.min.toNat ≤ distance ∧ distance ≤ a.reach.max.toNat

instance (a : Attack) (distance : Nat) : Decidable (a.Reaches distance) :=
  inferInstanceAs (Decidable (_ ∧ _))

theorem Attack.covers_iff {a : Attack} {distance : Nat} :
    a.reach.covers distance = true ↔ a.Reaches distance := by
  rw [Reach.covers, Bool.and_eq_true, decide_eq_true_iff, decide_eq_true_iff, Reaches]

namespace Roster

variable {r : Roster} {f target : Fighter}

/-- What a fighter is to do about its opponents, by how far away they are. -/
inductive Decision (r : Roster) (away : Fighter → Nat) (f : Fighter) : List Intent → Prop where
  | unopposed (nobody : ∀ t ∈ r.fighters, ¬ Foe f t) : Decision r away f []
  | strike {target : Fighter} (nearest : r.Nearest away f target) {attack : Attack}
      {before after : List Attack} (attacks : f.attacks = before ++ attack :: after)
      (reaches : attack.Reaches (away target))
      (first : ∀ a ∈ before, ¬ a.Reaches (away target)) :
      Decision r away f [.attack f.id.text target.id.text attack.name]
  | approach {target : Fighter} (nearest : r.Nearest away f target)
      (short : ∀ a ∈ f.attacks, ¬ a.Reaches (away target)) :
      Decision r away f [.moveToward f.id.text target.id.text]

theorem approach_intent_of_some {attack : Attack}
    (h : f.attacks.find? (·.reach.covers (r.distance f target)) = some attack) :
    (r.approach f target).intent = .attack f.id.text target.id.text attack.name := by
  rw [approach, h]

theorem approach_intent_of_none
    (h : f.attacks.find? (·.reach.covers (r.distance f target)) = none) :
    (r.approach f target).intent = .moveToward f.id.text target.id.text := by
  rw [approach, h]

theorem find?_covers_eq_some_iff {attacks : List Attack} {distance : Nat} {attack : Attack} :
    attacks.find? (·.reach.covers distance) = some attack ↔
      attack.Reaches distance ∧ ∃ before after, attacks = before ++ attack :: after ∧
        ∀ a ∈ before, ¬ a.Reaches distance := by
  rw [List.find?_eq_some_iff_append]
  simp only [Bool.not_eq_true', ← Bool.not_eq_true, Attack.covers_iff]

theorem find?_covers_eq_none_iff {attacks : List Attack} {distance : Nat} :
    attacks.find? (·.reach.covers distance) = none ↔ ∀ a ∈ attacks, ¬ a.Reaches distance := by
  rw [List.find?_eq_none]
  simp only [Attack.covers_iff]

/-- The rule leaves no choice. -/
theorem decision_iff (hfolded : ∀ t ∈ r.fighters, Text.Folded t.faction) {intents : List Intent} :
    Decision r (r.distance f) f intents ↔
      intents = ((r.nearestOpponent? f).map fun t => (r.approach f t).intent).toList := by
  constructor
  · intro h
    cases h with
    | unopposed nobody =>
      rw [(nearestOpponent?_eq_none_iff hfolded).mpr nobody]
      rfl
    | strike nearest attacks reaches first =>
      have hattack := find?_covers_eq_some_iff.mpr ⟨reaches, _, _, attacks, first⟩
      rw [(nearestOpponent?_eq_some_iff hfolded).mpr nearest, Option.map_some,
        approach_intent_of_some hattack]
      rfl
    | approach nearest short =>
      rw [(nearestOpponent?_eq_some_iff hfolded).mpr nearest, Option.map_some,
        approach_intent_of_none (find?_covers_eq_none_iff.mpr short)]
      rfl
  · rintro rfl
    cases hnearest : r.nearestOpponent? f with
    | none => exact .unopposed ((nearestOpponent?_eq_none_iff hfolded).mp hnearest)
    | some target =>
      have hnearest := (nearestOpponent?_eq_some_iff hfolded).mp hnearest
      rw [Option.map_some]
      cases hattack : f.attacks.find? (·.reach.covers (r.distance f target)) with
      | some attack =>
        obtain ⟨reaches, before, after, attacks, first⟩ := find?_covers_eq_some_iff.mp hattack
        rw [approach_intent_of_some hattack]
        exact .strike hnearest attacks reaches first
      | none =>
        rw [approach_intent_of_none hattack]
        exact .approach hnearest (find?_covers_eq_none_iff.mp hattack)

/-! ## Distances that have wrapped around -/

/-- How far two fighters are apart, however many bits that number has. -/
def apart (r : Roster) (a b : Fighter) : Nat := r.grid.apart a.position b.position

/-- The distance of the opponent says how far away it is. Or it says so of no opponent, and no attack
is taken for one that reaches it. -/
def Counted (r : Roster) (f target : Fighter) : Prop :=
  r.apart f target ≤ Decimal.word32 ∨
    (∀ t ∈ r.fighters, Foe f t → Decimal.word32 < r.apart f t) ∧
      ∀ a ∈ f.attacks, ¬ a.Reaches (r.distance f target)

theorem Nearest.apart_of_le (h : r.Nearest (r.distance f) f target)
    (hnear : r.apart f target ≤ Decimal.word32) : r.Nearest (r.apart f) f target := by
  have htarget : r.distance f target = r.apart f target := Grid.distance_eq_apart hnear
  have hall : ∀ t, r.distance f t ≤ r.apart f t := fun _ => Grid.distance_le_apart _ _ _
  refine h.congr (fun t _ _ hlt => ?_) (fun t _ _ hle => ?_)
  · exact htarget ▸ hlt.trans_le (hall t)
  · exact htarget ▸ hle.trans (hall t)

/-- Where all distances have wrapped around, they still are in the same order. -/
theorem Nearest.apart_of_far (h : r.Nearest (r.distance f) f target)
    (hfar : ∀ t ∈ r.fighters, Foe f t → Decimal.word32 < r.apart f t) :
    r.Nearest (r.apart f) f target := by
  have hall : ∀ t ∈ r.fighters, Foe f t → r.distance f t + UInt32.size = r.apart f t :=
    fun t ht hfoe => Grid.distance_add_size (hfar t ht hfoe)
  have htarget := hall target h.mem h.foe
  refine h.congr (fun t ht hfoe hlt => ?_) (fun t ht hfoe hle => ?_)
  · rw [← htarget, ← hall t ht hfoe]
    exact Nat.add_lt_add_right hlt _
  · rw [← htarget, ← hall t ht hfoe]
    exact Nat.add_le_add_right hle _

/-- No attack reaches further than 32 bits can say. -/
theorem le_of_reaches {a : Attack} {distance : Nat} (h : a.Reaches distance) :
    distance ≤ Decimal.word32 :=
  h.2.trans (Nat.le_of_lt_succ a.reach.max.toNat_lt)

theorem decision_apart_of_counted {intents : List Intent}
    (h : Decision r (r.distance f) f intents)
    (hcounted : ∀ target, r.Nearest (r.distance f) f target → r.Counted f target) :
    Decision r (r.apart f) f intents := by
  cases h with
  | unopposed nobody => exact .unopposed nobody
  | @strike target nearest attack before after attacks reaches first =>
    rcases hcounted target nearest with hnear | ⟨-, hshort⟩
    · have heq : r.distance f target = r.apart f target := Grid.distance_eq_apart hnear
      exact .strike (nearest.apart_of_le hnear) attacks (heq ▸ reaches) (heq ▸ first)
    · exact absurd reaches (hshort attack (attacks ▸ List.mem_append_right _ List.mem_cons_self))
  | @approach target nearest short =>
    rcases hcounted target nearest with hnear | ⟨hfar, -⟩
    · have heq : r.distance f target = r.apart f target := Grid.distance_eq_apart hnear
      exact .approach (nearest.apart_of_le hnear) (heq ▸ short)
    · refine .approach (nearest.apart_of_far hfar) fun a _ hreaches => ?_
      exact absurd (le_of_reaches hreaches) (hfar _ nearest.mem nearest.foe).not_ge

theorem eq_of_text_eq (hids : r.ids.Nodup) {a b : Fighter} (ha : a ∈ r.fighters)
    (hb : b ∈ r.fighters) (h : a.id.text = b.id.text) : a = b :=
  List.inj_on_of_nodup_map hids ha hb (TokenId.text_injective h)

/-- The intent names the opponent, as long as no two fighters have one id. -/
theorem counted_of_decision_apart (hfolded : ∀ t ∈ r.fighters, Text.Folded t.faction)
    (hids : r.ids.Nodup) {intents : List Intent} (h : Decision r (r.distance f) f intents)
    (hrule : Decision r (r.apart f) f intents) (hnearest : r.Nearest (r.distance f) f target) :
    r.Counted f target := by
  have hintents : intents = [(r.approach f target).intent] := by
    rw [(decision_iff hfolded).mp h, (nearestOpponent?_eq_some_iff hfolded).mpr hnearest]
    rfl
  cases hattack : f.attacks.find? (·.reach.covers (r.distance f target)) with
  | some attack =>
    rw [approach_intent_of_some hattack] at hintents
    cases hrule with
    | unopposed nobody => cases hintents
    | strike nearest attacks reaches first =>
      obtain ⟨-, hid, -⟩ := Intent.attack.inj (List.singleton_inj.mp hintents)
      exact .inl (eq_of_text_eq hids nearest.mem hnearest.mem hid ▸ le_of_reaches reaches)
    | approach nearest short => cases hintents
  | none =>
    rw [approach_intent_of_none hattack] at hintents
    cases hrule with
    | unopposed nobody => cases hintents
    | strike nearest attacks reaches first => cases hintents
    | approach nearest short =>
      obtain ⟨-, hid⟩ := Intent.moveToward.inj (List.singleton_inj.mp hintents)
      obtain rfl := eq_of_text_eq hids nearest.mem hnearest.mem hid
      rcases le_or_gt (r.apart f _) Decimal.word32 with hnear | hfar
      · exact .inl hnear
      · refine .inr ⟨fun t ht hfoe => hfar.trans_le (nearest.le t ht hfoe), ?_⟩
        exact find?_covers_eq_none_iff.mp hattack

end Roster

end Tabletop
