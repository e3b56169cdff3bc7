import Tabletop.Proofs.Turns

/-!
# Initiative by value

Initiative values stand in a table, and the order of turns beside it. Both change when somebody
leaves, each in its own way.

* `Ranked` says what it is to be sorted by value, equal values in the order of the table. There is
  exactly one such ranking (`Ranked.unique`), and it stays one when the same entries are taken out of
  both (`Ranked.filter`), so that `Roster.byValue_filter`.
* `Roster.ByValue`: the rosters whose latest initiative has values. `ByValue.order_eq` is their
  invariant.
* `Roster.turnOrder_by_value`: there the order of turns is the ranking of the table.
-/

namespace Tabletop

/-! ## Rankings -/

/-- The entries of a table from high to low, equal ones in the order of the table. -/
structure Ranked (values ranking : List (String × Int32)) : Prop where
  perm : ranking.Perm values
  falling : ranking.Pairwise fun a b => b.2 ≤ a.2
  ties : ∀ value, ranking.filter (·.2 == value) = values.filter (·.2 == value)

namespace Ranked

theorem filter {values ranking : List (String × Int32)} (h : Ranked values ranking)
    (p : String × Int32 → Bool) : Ranked (values.filter p) (ranking.filter p) where
  perm := h.perm.filter p
  falling := h.falling.filter p
  ties value := by rw [List.filter_comm, h.ties value, List.filter_comm]

/-- Two rankings begin with the same entry: it has the highest value, and is the first with it. -/
theorem head_eq {a b : String × Int32} {values as bs : List (String × Int32)}
    (ha : Ranked values (a :: as)) (hb : Ranked values (b :: bs)) : a = b := by
  have hperm : (a :: as).Perm (b :: bs) := ha.perm.trans hb.perm.symm
  have hle : ∀ {x y : String × Int32} {l : List (String × Int32)},
      (x :: l).Pairwise (fun a b => b.2 ≤ a.2) → y ∈ x :: l → y.2 ≤ x.2 := by
    intro x y l hfalling hy
    rcases List.mem_cons.mp hy with rfl | hy
    · exact Int32.le_refl _
    · exact List.rel_of_pairwise_cons hfalling hy
  have hvalue : a.2 = b.2 := Int32.le_antisymm
    (hle hb.falling (hperm.subset List.mem_cons_self))
    (hle ha.falling (hperm.symm.subset List.mem_cons_self))
  have hties := (ha.ties a.2).trans (hb.ties a.2).symm
  rw [List.filter_cons_of_pos (by simp), List.filter_cons_of_pos (by simp [hvalue])] at hties
  exact (List.cons.inj hties).1

theorem tail {a : String × Int32} {values ranking : List (String × Int32)}
    (h : Ranked (a :: values) (a :: ranking)) : Ranked values ranking where
  perm := h.perm.cons_inv
  falling := h.falling.of_cons
  ties value := by
    have hties := h.ties value
    rw [List.filter_cons, List.filter_cons] at hties
    split at hties
    · exact (List.cons.inj hties).2
    · exact hties

/-- A table that falls is its own ranking. -/
theorem eq_of_falling {values ranking : List (String × Int32)}
    (hfalling : values.Pairwise fun a b => b.2 ≤ a.2) (h : Ranked values ranking) :
    ranking = values := by
  induction values generalizing ranking with
  | nil => exact h.perm.eq_nil
  | cons a values ih =>
    cases ranking with
    | nil => cases h.perm.symm.eq_nil
    | cons b ranking =>
      have hself : Ranked (a :: values) (a :: values) := ⟨.refl _, hfalling, fun _ => rfl⟩
      obtain rfl : b = a := h.head_eq hself
      rw [ih hfalling.of_cons h.tail]

theorem unique {values ranking other : List (String × Int32)} (h : Ranked values ranking)
    (h' : Ranked values other) : other = ranking :=
  eq_of_falling h.falling
    ⟨h'.perm.trans h.perm.symm, h'.falling, fun value => (h'.ties value).trans (h.ties value).symm⟩

end Ranked

namespace Roster

theorem byValue_trans (a b c : String × Int32) (hab : decide (b.2 ≤ a.2) = true)
    (hbc : decide (c.2 ≤ b.2) = true) : decide (c.2 ≤ a.2) = true :=
  decide_eq_true (Int32.le_trans (of_decide_eq_true hbc) (of_decide_eq_true hab))

theorem byValue_total (a b : String × Int32) :
    (decide (b.2 ≤ a.2) || decide (a.2 ≤ b.2)) = true := by
  rw [Bool.or_eq_true, decide_eq_true_iff, decide_eq_true_iff]
  exact Int32.le_total b.2 a.2

theorem ranked_byValue (values : List (String × Int32)) : Ranked values (byValue values) := by
  have hperm : (byValue values).Perm values := List.mergeSort_perm values _
  have hfalling := List.pairwise_mergeSort byValue_trans byValue_total values
  refine ⟨hperm, hfalling.imp of_decide_eq_true, fun value => ?_⟩
  -- entries with one value are in order as they stand, and the sorting keeps them so
  have hequal : (values.filter (·.2 == value)).Pairwise fun a b => decide (b.2 ≤ a.2) = true := by
    refine List.pairwise_of_forall_mem_list fun a ha b hb => decide_eq_true ?_
    rw [eq_of_beq (List.mem_filter.mp ha).2, eq_of_beq (List.mem_filter.mp hb).2]
    exact Int32.le_refl value
  have hkept : (values.filter (·.2 == value)).Sublist (byValue values) :=
    List.sublist_mergeSort byValue_trans byValue_total hequal List.filter_sublist
  have hsub := hkept.filter (·.2 == value)
  rw [List.filter_filter, List.filter_congr fun _ _ => Bool.and_self _] at hsub
  exact (hsub.eq_of_length (hperm.filter _).length_eq.symm).symm

theorem byValue_filter (values : List (String × Int32)) (p : String × Int32 → Bool) :
    byValue (values.filter p) = (byValue values).filter p :=
  ((ranked_byValue values).filter p).unique (ranked_byValue (values.filter p))

end Roster

/-! ## Single instructions -/

namespace Roster

/-- The same order of turns, with the same values behind it. -/
def SameTurns (r r' : Roster) : Prop := r'.order = r.order ∧ r'.values = r.values

theorem SameTurns.spawned (sprite : Sprite) (stem : String) (attrs : Attributes) (r : Roster)
    (sprites : List Sprite) (cells : List Cell) :
    SameTurns r ({ r with sprites }.spawn sprite stem attrs cells) := by
  obtain ⟨fighters, hview⟩ := spawn_view sprite stem attrs { r with sprites } cells
  rw [hview]
  exact ⟨rfl, rfl⟩

/-- Apart from initiative and clearing, only the leaving of a fighter has to do with the turns. -/
theorem Change.sameTurns {i : Instruction} (hi : i.settlesTurns = false) {r r' : Roster}
    (h : Change i r r') : SameTurns r r' ∨ ∃ id, r' = r.remove id := by
  have hnot : i.settlesTurns ≠ true := Bool.eq_false_iff.mp hi
  cases h with
  | spawned found stem cells => exact .inl (.spawned _ stem _ r _ cells)
  | removed id => exact .inr ⟨id, rfl⟩
  | ranked settles values => exact absurd settles hnot
  | listed settles ids => exact absurd settles hnot
  | cleared settles => exact absurd settles hnot
  | wiped settles => exact absurd settles hnot
  | _ => exact .inl ⟨rfl, rfl⟩

/-! ## The order of turns -/

/-- The order of turns is the table sorted by value. -/
def InOrder (r : Roster) : Prop := r.order = some ((byValue r.values).map (·.1))

theorem inOrder_withValues (r : Roster) (values : List (String × Int32)) :
    (r.withValues values).InOrder := rfl

theorem InOrder.congr {r r' : Roster} (h : r.InOrder) (hsame : SameTurns r r') : r'.InOrder := by
  rw [InOrder, hsame.1, hsame.2]
  exact h

/-- Whoever leaves goes out of the order and of the table. -/
theorem InOrder.remove {r : Roster} (h : r.InOrder) (id : TokenId) : (r.remove id).InOrder := by
  have horder : (r.remove id).order = r.order.map (·.filter (· != id.text)) := rfl
  have hvalues : (r.remove id).values = r.values.filter (·.1 != id.text) := rfl
  rw [InOrder, horder, hvalues, h, byValue_filter, Option.map_some, List.filter_map]
  rfl

/-- The rosters in which the latest initiative is one of values: since then instructions and turns
have come that neither give another one nor take it away. -/
inductive Valued (settings : Settings) : Roster → Prop where
  | set {r : Roster} (entries : List InitiativeEntry) (h : Attained settings r) :
      Valued settings (r.follow (.initiativeSet entries))
  | merge {r : Roster} (value : Int32) (ids : List String) (h : Attained settings r) :
      Valued settings (r.follow (.initiative (some value) ids))
  | follow {r : Roster} (i : Instruction) (hi : i.settlesTurns = false) (h : Valued settings r) :
      Valued settings (r.follow i)
  | nextTurn {r : Roster} (h : Valued settings r) : Valued settings r.nextTurn

theorem Valued.inOrder {settings : Settings} {r : Roster} (h : Valued settings r) : r.InOrder := by
  induction h with
  | set entries _ => exact inOrder_withValues _ _
  | merge value ids _ => exact inOrder_withValues _ _
  | @follow r i hi _ ih =>
    rcases (r.change_follow i).sameTurns hi with hsame | ⟨id, hleft⟩
    · exact ih.congr hsame
    · rw [hleft]
      exact ih.remove id
  | @nextTurn r _ ih => exact r.nextTurn_cases ih fun _ _ => ih

/-- Where the latest initiative is one of values, the order of turns is the table of values from high
to low, with equal values in the order of the table, whoever has come, gone or changed since. There is
only one such ranking. -/
theorem turnOrder_by_value {settings : Settings} {r : Roster} (h : Valued settings r) :
    ∃ ranking, Ranked r.values ranking ∧ (∀ other, Ranked r.values other → other = ranking) ∧
      r.turnOrder = ranking.map (·.1) := by
  have hranked := ranked_byValue r.values
  refine ⟨byValue r.values, hranked, fun other => hranked.unique, ?_⟩
  rw [turnOrder, h.inOrder]
  rfl

/-- A bare order comes in between and is given up for the next value. One of the two who have this
value leaves, somebody else joins, and the turn is passed on by a fighter who is not there. -/
theorem turnOrder_by_value_merged :
    ∃ r : Roster, Valued {} r ∧ r.values = [("G-1", 5), ("ghost", 9), ("G-3", 7)] ∧
      r.ids = [⟨"G", 1⟩, ⟨"G", 3⟩, ⟨"G", 4⟩] ∧
      Ranked r.values [("ghost", 9), ("G-3", 7), ("G-1", 5)] ∧
      r.turnOrder = ["ghost", "G-3", "G-1"] := by
  let batch : List Instruction :=
    [.spriteDef "G" ∅, .place "G" [⟨0, 0⟩, ⟨1, 0⟩, ⟨2, 0⟩],
      .initiativeSet [⟨"G-1", 5⟩, ⟨"ghost", 9⟩, ⟨"G-2", 5⟩], .initiative none ["G-3", "G-2"]]
  have hlisted : Attained {} ((empty {}).apply batch).1 := Attained.empty.apply batch
  obtain ⟨r, hvalued, hvalues, hids⟩ : ∃ r : Roster, Valued {} r ∧
      r.values = [("G-1", 5), ("ghost", 9), ("G-3", 7)] ∧
      r.ids = [⟨"G", 1⟩, ⟨"G", 3⟩, ⟨"G", 4⟩] :=
    ⟨_, ((Valued.merge 7 ["G-2", "G-3"] hlisted).follow (.remove "G-2") rfl).follow
      (.place "G" [⟨3, 0⟩]) rfl, by decide +kernel, by decide +kernel⟩
  obtain ⟨hvalues', hids'⟩ : r.nextTurn.values = r.values ∧ r.nextTurn.ids = r.ids :=
    r.nextTurn_cases (P := fun r' => r'.values = r.values ∧ r'.ids = r.ids) ⟨rfl, rfl⟩
      fun _ _ => ⟨rfl, rfl⟩
  obtain ⟨ranking, hranked, hunique, hturns⟩ := turnOrder_by_value hvalued.nextTurn
  have hranking : ranking = [("ghost", 9), ("G-3", 7), ("G-1", 5)] := by
    rw [← hunique _ (ranked_byValue _), hvalues', hvalues, byValue]
    simp +decide [List.mergeSort]
  rw [hranking] at hranked hturns
  exact ⟨r.nextTurn, hvalued.nextTurn, hvalues'.trans hvalues, hids'.trans hids, hranked, hturns⟩

end Roster

end Tabletop
