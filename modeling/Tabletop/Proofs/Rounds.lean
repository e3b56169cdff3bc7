import Tabletop.Proofs.Turns

/-!
# One turn in a round

Between two batches the turn is passed on and fighters leave. A new round begins when the turn is
passed on from the end of the order. It does not begin when the fighter at the end of the order
leaves in its own turn, though the turn goes back to the front there as well.

* `Roster.HandOver` lists where the turn can be afterwards.
* `Roster.Course` is a run with all turns that have begun in it. `Course.restarts` counts how often
  the turn has gone back to the front without a new round.
* `Course.one_turn_a_round`: nobody has two turns in a round if and only if the turn goes back like
  this at most once, in the round in which the run begins, and then only comes to those who stood
  in front of the first turn of the run.
-/

namespace Tabletop

namespace Roster

/-! ## The place of the turn -/

/-- What happens between two batches. -/
inductive Passing where
  | nextTurn
  | remove (reference : String)
deriving DecidableEq

def pass (r : Roster) : Passing → Roster
  | .nextTurn => r.nextTurn
  | .remove reference => r.follow (.remove reference)

/-- Those in the order whose turn is before the one that is on. -/
def inFront (r : Roster) : List String := r.turnOrder.take r.active

/-- Those in the order whose turn is still to come in this round. -/
def upcoming (r : Roster) : List String := r.turnOrder.drop (r.active + 1)

/-- The fighter at the end of the order leaves in its own turn, and there are others: the turn goes
back to the front. -/
def startsOver (r : Roster) : Passing → Bool
  | .nextTurn => false
  | .remove reference =>
    (r.fighter? reference).any fun f =>
      r.activeId? == some f.id.text && r.upcoming.isEmpty && !r.inFront.isEmpty

/-- The order of turns, divided at the one that is on. -/
structure TurnAt (r : Roster) (front : List String) (id : String) (rest : List String) : Prop where
  order : r.turnOrder = front ++ id :: rest
  active : r.active = front.length

namespace TurnAt

variable {r : Roster} {front rest : List String} {id : String}

theorem activeId?_eq (h : TurnAt r front id rest) : r.activeId? = some id := by
  rw [activeId?, h.order, h.active, List.getElem?_append_right (Nat.le_refl _), Nat.sub_self]
  rfl

theorem inFront_eq (h : TurnAt r front id rest) : r.inFront = front := by
  rw [inFront, h.order, h.active, List.take_left]

theorem upcoming_eq (h : TurnAt r front id rest) : r.upcoming = rest := by
  rw [upcoming, h.order, h.active, ← List.drop_drop, List.drop_left]
  rfl

end TurnAt

theorem InRange.exists_turnAt {r : Roster} (h : r.InRange) (hsome : r.turnOrder ≠ []) :
    ∃ front id rest, TurnAt r front id rest := by
  have hplace := h.lt_length hsome
  refine ⟨r.inFront, r.turnOrder[r.active], r.upcoming, ?_, ?_⟩
  · rw [inFront, upcoming, List.getElem_cons_drop, List.take_append_drop]
  · rw [inFront, List.length_take_of_le hplace.le]

/-! ## A fighter leaves -/

theorem turnOrder_remove (r : Roster) (id : TokenId) :
    (r.remove id).turnOrder = r.turnOrder.filter (· != id.text) := by
  have hids := r.ids_remove id
  rw [turnOrder, turnOrder, hids]
  cases horder : r.order with
  | some order => simp [remove, horder]
  | none =>
    simp only [remove, horder, Option.map_none, Option.getD_none, List.filter_map]
    refine congrArg _ (List.filter_congr fun other _ => ?_)
    rw [Function.comp_apply, Bool.eq_iff_iff, bne_iff_ne, bne_iff_ne]
    exact not_congr ⟨congrArg TokenId.text, TokenId.text_injective⟩

theorem active_remove (r : Roster) (id : TokenId) :
    (r.remove id).active = placeOfTurn r.activeId? r.active (r.remove id).turnOrder := rfl

theorem filter_bne_eq_self {id : String} {ids : List String} (h : id ∉ ids) :
    ids.filter (· != id) = ids :=
  List.filter_eq_self.mpr fun _ hother => bne_iff_ne.mpr (ne_of_mem_of_not_mem hother h)

theorem findIdx?_of_not_mem {id : String} {front rest : List String} (h : id ∉ front) :
    (front ++ id :: rest).findIdx? (· == id) = some front.length := by
  have hnone : front.findIdx? (· == id) = none := List.findIdx?_eq_none_iff.mpr fun _ hother =>
    beq_eq_false_iff_ne.mpr (ne_of_mem_of_not_mem hother h)
  rw [List.findIdx?_append, hnone, List.findIdx?_cons, beq_self_eq_true]
  simp

section Leaving

variable {r : Roster} {front rest : List String} {id : String}

theorem TurnAt.remove_other (h : TurnAt r front id rest) (hnodup : r.turnOrder.Nodup)
    {gone : TokenId} (hother : id ≠ gone.text) :
    TurnAt (r.remove gone) (front.filter (· != gone.text)) id (rest.filter (· != gone.text)) := by
  have horder : (r.remove gone).turnOrder =
      front.filter (· != gone.text) ++ id :: rest.filter (· != gone.text) := by
    have hstays : (id != gone.text) = true := bne_iff_ne.mpr hother
    rw [turnOrder_remove, h.order, List.filter_append, List.filter_cons, if_pos hstays]
  refine ⟨horder, ?_⟩
  rw [h.order] at hnodup
  have hfront : id ∉ front.filter (· != gone.text) := fun hmem =>
    (List.nodup_append.mp hnodup).2.2 id (List.mem_of_mem_filter hmem) id List.mem_cons_self rfl
  rw [active_remove, placeOfTurn, h.activeId?_eq, Option.bind_some, horder,
    findIdx?_of_not_mem hfront]

theorem TurnAt.turnOrder_remove_self (h : TurnAt r front id rest) (hnodup : r.turnOrder.Nodup)
    {gone : TokenId} (hself : id = gone.text) : (r.remove gone).turnOrder = front ++ rest := by
  rw [h.order] at hnodup
  obtain ⟨-, hrest, hfront⟩ := List.nodup_append.mp hnodup
  subst hself
  rw [turnOrder_remove, h.order, List.filter_append, List.filter_cons_of_neg (by simp),
    filter_bne_eq_self fun hmem => hfront _ hmem _ List.mem_cons_self rfl,
    filter_bne_eq_self (List.nodup_cons.mp hrest).1]

theorem TurnAt.active_remove_self (h : TurnAt r front id rest) (hnodup : r.turnOrder.Nodup)
    {gone : TokenId} (hself : id = gone.text) :
    (r.remove gone).active = if rest = [] then 0 else front.length := by
  have horder := h.turnOrder_remove_self hnodup hself
  have hgone : (front ++ rest).findIdx? (· == id) = none := by
    rw [List.findIdx?_eq_none_iff, ← horder, turnOrder_remove]
    intro other hother
    rw [hself]
    simpa using (List.mem_filter.mp hother).2
  rw [active_remove, placeOfTurn, h.activeId?_eq, Option.bind_some, horder, hgone, h.active,
    List.length_append]
  by_cases hrest : rest = []
  · rw [if_pos hrest, hrest, List.length_nil, Nat.add_zero, if_pos (Nat.le_refl _)]
  · have hpos := List.length_pos_of_ne_nil hrest
    rw [if_neg hrest, if_neg (by omega)]

end Leaving

/-! ## Passing the turn on -/

theorem TurnAt.nextTurn_of_cons {r : Roster} {front rest : List String} {id next : String}
    (h : TurnAt r front id (next :: rest)) : r.nextTurn = { r with active := r.active + 1 } := by
  have hlt : r.active + 1 < r.turnOrder.length := by
    rw [h.order, h.active]
    simp
  rw [nextTurn, if_neg (by simp [h.order]), if_pos hlt]

theorem TurnAt.nextTurn_of_nil {r : Roster} {front : List String} {id : String}
    (h : TurnAt r front id []) : r.nextTurn = { r with active := 0, rounds := r.rounds + 1 } := by
  rw [nextTurn, if_neg (by simp [h.order]), if_neg (by simp [h.order, h.active])]

/-- Where the turn can be after it has been passed on or somebody has left. -/
inductive HandOver (r : Roster) (p : Passing) (r' : Roster) : Prop where
  | nobody (order : r'.turnOrder = []) (round : r'.round = r.round)
      (onward : r.startsOver p = false)
  | stays (active : r'.activeId? = r.activeId?) (round : r'.round = r.round)
      (order : r'.turnOrder.Sublist r.turnOrder)
      (upcoming : ∀ id ∈ r'.turnOrder, id ∈ r'.upcoming ↔ id ∈ r.upcoming)
      (onward : r.startsOver p = false)
  | goesOn (id : String) (active : r'.activeId? = some id) (moved : r.activeId? ≠ some id)
      (round : r'.round = r.round) (order : r'.turnOrder.Sublist r.turnOrder)
      (upcoming : r.upcoming = id :: r'.upcoming) (onward : r.startsOver p = false)
  | newRound (id : String) (active : r'.activeId? = some id) (round : r'.round = r.round + 1)
      (order : r'.turnOrder.Sublist r.turnOrder) (begins : r'.turnOrder = id :: r'.upcoming)
  | startsOver (id : String) (active : r'.activeId? = some id) (moved : r.activeId? ≠ some id)
      (round : r'.round = r.round) (order : r'.turnOrder.Sublist r.turnOrder)
      (upcoming : r.upcoming = []) (begins : r'.turnOrder = id :: r'.upcoming)
      (again : r.startsOver p = true)

theorem HandOver.refl (r : Roster) {p : Passing} (onward : r.startsOver p = false) :
    HandOver r p r :=
  .stays rfl rfl (List.Sublist.refl _) (fun _ _ => Iff.rfl) onward

section TurnAt

variable {r : Roster} {front rest : List String} {id : String}

theorem TurnAt.handOver_nextTurn (h : TurnAt r front id rest) (hnodup : r.turnOrder.Nodup)
    (hroom : r.round < Decimal.word32) : HandOver r .nextTurn r.nextTurn := by
  rw [h.order] at hnodup
  cases rest with
  | cons next rest =>
    have hnext : TurnAt { r with active := r.active + 1 } (front ++ [id]) next rest :=
      ⟨by rw [List.append_assoc]; exact h.order, by simp [h.active]⟩
    have hmoved : r.activeId? ≠ some next := by
      rw [h.activeId?_eq]
      rintro heq
      have hid := (List.nodup_cons.mp (List.nodup_append.mp hnodup).2.1).1
      exact hid (Option.some.inj heq ▸ List.mem_cons_self)
    rw [h.nextTurn_of_cons]
    exact .goesOn next hnext.activeId?_eq hmoved rfl (List.Sublist.refl _)
      (by rw [h.upcoming_eq, hnext.upcoming_eq]) rfl
  | nil =>
    rw [h.nextTurn_of_nil]
    obtain ⟨first, others, hfirst⟩ := List.exists_cons_of_ne_nil
      (List.append_ne_nil_of_right_ne_nil front (List.cons_ne_nil id []))
    have hnext : TurnAt { r with active := 0, rounds := r.rounds + 1 } [] first others :=
      ⟨h.order.trans hfirst, rfl⟩
    exact .newRound first hnext.activeId?_eq (toNat_rounds_succ hroom) (List.Sublist.refl _)
      (by rw [hnext.upcoming_eq]; exact hnext.order)

theorem TurnAt.handOver_remove (h : TurnAt r front id rest) (hnodup : r.turnOrder.Nodup)
    {reference : String} {f : Fighter} (hfound : r.fighter? reference = some f) :
    HandOver r (.remove reference) (r.remove f.id) := by
  have hsub : (r.remove f.id).turnOrder.Sublist r.turnOrder := by
    rw [turnOrder_remove]
    exact List.filter_sublist
  have hover : r.startsOver (.remove reference) = (id == f.id.text && rest.isEmpty &&
      !front.isEmpty) := by
    rw [startsOver, hfound, h.activeId?_eq, h.upcoming_eq, h.inFront_eq]
    rfl
  by_cases hself : id = f.id.text
  · have horder := h.turnOrder_remove_self hnodup hself
    have hactive := h.active_remove_self hnodup hself
    have hgone : id ∉ (r.remove f.id).turnOrder := by
      rw [turnOrder_remove, hself]
      simp
    have hmoved : ∀ next ∈ (r.remove f.id).turnOrder, r.activeId? ≠ some next := by
      rw [h.activeId?_eq]
      rintro next hnext heq
      exact hgone (Option.some.inj heq ▸ hnext)
    cases rest with
    | cons next rest =>
      have hnext : TurnAt (r.remove f.id) front next rest := ⟨horder, by simpa using hactive⟩
      exact .goesOn next hnext.activeId?_eq (hmoved next (by simp [horder])) rfl hsub
        (by rw [h.upcoming_eq, hnext.upcoming_eq]) (by simp [hover])
    | nil =>
      cases front with
      | nil => exact .nobody horder rfl (by simp [hover])
      | cons first others =>
        have hnext : TurnAt (r.remove f.id) [] first others :=
          ⟨by simpa using horder, by simpa using hactive⟩
        exact .startsOver first hnext.activeId?_eq (hmoved first (by simp [horder])) rfl hsub
          h.upcoming_eq (by rw [hnext.upcoming_eq]; exact hnext.order) (by simp [hover, hself])
  · have hnext := h.remove_other hnodup hself
    refine .stays (by rw [hnext.activeId?_eq, h.activeId?_eq]) rfl hsub ?_ (by simp [hover, hself])
    intro other hother
    rw [turnOrder_remove] at hother
    rw [hnext.upcoming_eq, h.upcoming_eq, List.mem_filter]
    exact and_iff_left (List.mem_filter.mp hother).2

end TurnAt

theorem pass_remove_of_some {r : Roster} {reference : String} {f : Fighter}
    (h : r.fighter? reference = some f) : r.pass (.remove reference) = r.remove f.id := by
  unfold pass follow step
  simp only [h]

theorem pass_remove_of_none {r : Roster} {reference : String} (h : r.fighter? reference = none) :
    r.pass (.remove reference) = r := by
  unfold pass follow step
  simp only [h]

theorem handOver_pass {r : Roster} (hrange : r.InRange) (hnodup : r.turnOrder.Nodup) {p : Passing}
    (hroom : p = .nextTurn → r.round < Decimal.word32) : HandOver r p (r.pass p) := by
  by_cases hnobody : r.turnOrder = []
  · have hnone : r.activeId? = none := by rw [activeId?, hnobody]; rfl
    cases p with
    | nextTurn =>
      have hsame : r.pass .nextTurn = r := by rw [pass, nextTurn, if_pos (by simp [hnobody])]
      rw [hsame]
      exact .refl r rfl
    | remove reference =>
      cases hfound : r.fighter? reference with
      | none =>
        rw [pass_remove_of_none hfound]
        exact .refl r (by simp [startsOver, hfound])
      | some f =>
        rw [pass_remove_of_some hfound]
        exact .nobody (by simp [turnOrder_remove, hnobody]) rfl (by simp [startsOver, hfound, hnone])
  · obtain ⟨front, id, rest, hturn⟩ := hrange.exists_turnAt hnobody
    cases p with
    | nextTurn => exact hturn.handOver_nextTurn hnodup (hroom rfl)
    | remove reference =>
      cases hfound : r.fighter? reference with
      | none =>
        rw [pass_remove_of_none hfound]
        exact .refl r (by simp [startsOver, hfound])
      | some f =>
        rw [pass_remove_of_some hfound]
        exact hturn.handOver_remove hnodup hfound

/-- The count of the rounds grows by one at most. -/
theorem round_pass_le (r : Roster) (p : Passing) :
    (r.pass p).round ≤ r.round + [p].count .nextTurn := by
  cases p with
  | nextTurn =>
    have hsucc : (r.rounds + 1).toNat ≤ r.round + 1 := by
      rw [UInt32.toNat_add]
      exact Nat.mod_le _ _
    change r.nextTurn.round ≤ r.round + 1
    unfold nextTurn
    split
    · exact Nat.le_succ _
    · split
      · exact Nat.le_succ _
      · exact hsucc
  | remove reference =>
    refine Nat.le_of_eq ?_
    cases hfound : r.fighter? reference with
    | none => rw [pass_remove_of_none hfound]; rfl
    | some f => rw [pass_remove_of_some hfound]; rfl

theorem Attained.pass {settings : Settings} {r : Roster} (h : Attained settings r) (p : Passing) :
    Attained settings (r.pass p) := by
  cases p with
  | nextTurn => exact h.nextTurn
  | remove reference => exact h.follow (.remove reference)

/-! ## The course of a run -/

/-- The turn as one of a round. -/
def turn? (r : Roster) : Option (Nat × String) := r.activeId?.map (r.round, ·)

/-- A run up to some point. -/
structure Course where
  roster : Roster
  /-- The turns that have begun, each with its round; the latest one first. -/
  turns : List (Nat × String)
  /-- How often in this round the turn has gone back to the front. -/
  restarts : Nat

namespace Course

/-- The turn that is on at the beginning counts as begun. -/
def start (r : Roster) : Course := ⟨r, r.turn?.toList, 0⟩

def pass (c : Course) (p : Passing) : Course :=
  let r := c.roster.pass p
  { roster := r
    turns := if r.turn? = c.roster.turn? then c.turns else r.turn?.toList ++ c.turns
    restarts :=
      if r.round ≠ c.roster.round then 0
      else if c.roster.startsOver p then c.restarts + 1
      else c.restarts }

def after (r : Roster) (run : List Passing) : Course := run.foldl pass (start r)

/-- The turn has not gone back to the front in this round; or once, in the round in which the run
began, and it is the turn of somebody who stood in front of the run's first turn. -/
def Orderly (first : Roster) (c : Course) : Prop :=
  c.restarts = 0 ∨
    (c.restarts = 1 ∧ c.roster.round = first.round ∧
      ∀ id ∈ c.roster.activeId?, id ∈ first.inFront)

/-- Whose turn may still first in this round as the first one in the run. -/
def Due (first : Roster) (c : Course) (id : String) : Prop :=
  if c.restarts = 0 then
    id ∈ c.roster.upcoming ∨ (c.roster.round = first.round ∧ id ∈ first.inFront)
  else id ∈ c.roster.upcoming ∧ id ∈ first.inFront

/-- What holds as long as nobody has had a second turn in a round. -/
structure Fair (settings : Settings) (first : Roster) (c : Course) : Prop where
  attained : Attained settings c.roster
  order : c.roster.turnOrder.Nodup
  later : first.round ≤ c.roster.round
  turns : c.turns.Nodup
  past : ∀ t ∈ c.turns, t.1 ≤ c.roster.round
  had : ∀ id ∈ c.roster.turnOrder, (c.roster.round, id) ∈ c.turns ↔ ¬Due first c id
  apart : c.restarts = 0 → c.roster.round = first.round →
    ∀ id ∈ c.roster.upcoming, id ∉ first.inFront
  orderly : Orderly first c

section

variable {settings : Settings} {first : Roster} {c : Course} {p : Passing} {id : String}

theorem turns_pass_of_same (h : (c.roster.pass p).turn? = c.roster.turn?) :
    (c.pass p).turns = c.turns := if_pos h

theorem turns_pass_of_nobody (h : (c.roster.pass p).activeId? = none) :
    (c.pass p).turns = c.turns := by
  change (if _ then _ else _) = _
  rw [turn?, h]
  exact ite_self _

theorem turns_pass_of_moved (hactive : (c.roster.pass p).activeId? = some id)
    (hmoved : c.roster.activeId? ≠ some id ∨ (c.roster.pass p).round ≠ c.roster.round) :
    (c.pass p).turns = ((c.roster.pass p).round, id) :: c.turns := by
  have hturn : (c.roster.pass p).turn? = some ((c.roster.pass p).round, id) := by
    rw [turn?, hactive, Option.map_some]
  have hne : (c.roster.pass p).turn? ≠ c.roster.turn? := by
    rw [hturn, turn?]
    intro heq
    obtain ⟨before, hbefore, hsame⟩ := Option.map_eq_some_iff.mp heq.symm
    obtain ⟨hround, rfl⟩ := Prod.mk.inj hsame
    exact hmoved.elim (· hbefore) (· hround.symm)
  change (if _ then _ else _) = _
  rw [if_neg hne, hturn]
  rfl

theorem restarts_pass_of_onward (hround : (c.roster.pass p).round = c.roster.round)
    (honward : c.roster.startsOver p = false) : (c.pass p).restarts = c.restarts := by
  change (if _ then _ else if _ then _ else _) = _
  rw [if_neg (not_not_intro hround), honward, if_neg Bool.false_ne_true]

theorem restarts_pass_of_over (hround : (c.roster.pass p).round = c.roster.round)
    (hover : c.roster.startsOver p = true) : (c.pass p).restarts = c.restarts + 1 := by
  change (if _ then _ else if _ then _ else _) = _
  rw [if_neg (not_not_intro hround), if_pos hover]

theorem restarts_pass_of_newRound (hround : (c.roster.pass p).round ≠ c.roster.round) :
    (c.pass p).restarts = 0 := if_pos hround

/-- A turn begins that is the first one of its fighter in the round. -/
theorem Fair.begins (h : Fair settings first c)
    (hturns : (c.pass p).turns = ((c.pass p).roster.round, id) :: c.turns)
    (hfresh : ((c.pass p).roster.round, id) ∉ c.turns)
    (hround : c.roster.round ≤ (c.pass p).roster.round)
    (horder : (c.pass p).roster.turnOrder.Sublist c.roster.turnOrder)
    (had : ∀ other ∈ (c.pass p).roster.turnOrder,
      (other = id ∨ ((c.pass p).roster.round, other) ∈ c.turns) ↔ ¬Due first (c.pass p) other)
    (apart : (c.pass p).restarts = 0 → (c.pass p).roster.round = first.round →
      ∀ id ∈ (c.pass p).roster.upcoming, id ∉ first.inFront)
    (orderly : Orderly first (c.pass p)) : Fair settings first (c.pass p) where
  attained := h.attained.pass p
  order := h.order.sublist horder
  later := h.later.trans hround
  turns := by
    rw [hturns]
    exact List.nodup_cons.mpr ⟨hfresh, h.turns⟩
  past := by
    rw [hturns]
    intro t ht
    rcases List.mem_cons.mp ht with rfl | ht
    · exact le_rfl
    · exact (h.past t ht).trans hround
  had := by
    intro other hother
    rw [hturns, List.mem_cons, Prod.mk.injEq, ← had other hother]
    simp
  apart := apart
  orderly := orderly

theorem not_mem_upcoming_of_begins {r : Roster} (hnodup : r.turnOrder.Nodup)
    (hbegins : r.turnOrder = id :: r.upcoming) {other : String} (hother : other ∈ r.turnOrder) :
    other = id ↔ other ∉ r.upcoming := by
  rw [hbegins] at hnodup hother
  have hid := (List.nodup_cons.mp hnodup).1
  constructor
  · rintro rfl
    exact hid
  · exact (List.mem_cons.mp hother).resolve_right

theorem mem_turnOrder_of_mem_upcoming {r : Roster} (h : id ∈ r.upcoming) : id ∈ r.turnOrder :=
  List.mem_of_mem_drop h

theorem due_of_none (h : c.restarts = 0) : Due first c id ↔
    id ∈ c.roster.upcoming ∨ (c.roster.round = first.round ∧ id ∈ first.inFront) := by
  rw [Due, if_pos h]

theorem due_of_restarts (h : c.restarts ≠ 0) :
    Due first c id ↔ id ∈ c.roster.upcoming ∧ id ∈ first.inFront := by
  rw [Due, if_neg h]

theorem Fair.not_nodup (h : Fair settings first c) (hid : id ∈ c.roster.turnOrder)
    (hdue : ¬Due first c id) (hturns : (c.pass p).turns = (c.roster.round, id) :: c.turns) :
    ¬(c.pass p).turns.Nodup := by
  rw [hturns, List.nodup_cons, not_and]
  exact fun hfresh => absurd ((h.had id hid).mpr hdue) hfresh

theorem Fair.goesOn (h : Fair settings first c)
    (hactive : (c.pass p).roster.activeId? = some id) (hmoved : c.roster.activeId? ≠ some id)
    (hround : (c.pass p).roster.round = c.roster.round)
    (horder : (c.pass p).roster.turnOrder.Sublist c.roster.turnOrder)
    (hupcoming : c.roster.upcoming = id :: (c.pass p).roster.upcoming)
    (honward : c.roster.startsOver p = false) :
    Fair settings first (c.pass p) ∨
      (¬Orderly first (c.pass p) ∧ ¬(c.pass p).turns.Nodup) := by
  have hturns := turns_pass_of_moved hactive (.inl hmoved)
  have hrestarts := restarts_pass_of_onward hround honward
  have hid : id ∈ c.roster.upcoming := hupcoming ▸ List.mem_cons_self
  have hknown := mem_turnOrder_of_mem_upcoming hid
  have honce : id ∉ (c.pass p).roster.upcoming := by
    have hnodup : c.roster.upcoming.Nodup := h.order.sublist (List.drop_sublist _ _)
    rw [hupcoming] at hnodup
    exact (List.nodup_cons.mp hnodup).1
  by_cases hnone : c.restarts = 0
  · have hdue : Due first c id := (due_of_none hnone).mpr (.inl hid)
    refine .inl (h.begins hturns ?_ hround.ge horder ?_ ?_ (.inl (hrestarts.trans hnone)))
    · exact hround ▸ fun hmem => (h.had id hknown).mp hmem hdue
    · intro other hother
      have hapart := h.apart hnone
      rw [hround, h.had other (horder.subset hother), due_of_none hnone,
        due_of_none (hrestarts.trans hnone), hround, hupcoming, List.mem_cons]
      grind
    · intro _ heq other hother
      exact h.apart hnone (hround ▸ heq) other (hupcoming ▸ List.mem_cons_of_mem _ hother)
  · obtain ⟨hone, hsame, -⟩ := h.orderly.resolve_left hnone
    have hagain : (c.pass p).restarts ≠ 0 := hrestarts ▸ hnone
    by_cases hfront : id ∈ first.inFront
    · have hdue : Due first c id := (due_of_restarts hnone).mpr ⟨hid, hfront⟩
      refine .inl (h.begins hturns ?_ hround.ge horder ?_ (fun hzero => absurd hzero hagain) ?_)
      · exact hround ▸ fun hmem => (h.had id hknown).mp hmem hdue
      · intro other hother
        rw [hround, h.had other (horder.subset hother), due_of_restarts hnone,
          due_of_restarts hagain, hupcoming, List.mem_cons]
        grind
      · refine .inr ⟨hrestarts.trans hone, hround.trans hsame, ?_⟩
        rw [hactive]
        rintro other ⟨⟩
        exact hfront
    · refine .inr ⟨?_, h.not_nodup hknown ?_ (hround ▸ hturns)⟩
      · rintro (hzero | ⟨-, -, hall⟩)
        · exact hagain hzero
        · exact hfront (hall id hactive)
      · rw [due_of_restarts hnone]
        exact fun hdue => hfront hdue.2

theorem Fair.startsOver (h : Fair settings first c)
    (hactive : (c.pass p).roster.activeId? = some id) (hmoved : c.roster.activeId? ≠ some id)
    (hround : (c.pass p).roster.round = c.roster.round)
    (horder : (c.pass p).roster.turnOrder.Sublist c.roster.turnOrder)
    (hupcoming : c.roster.upcoming = [])
    (hbegins : (c.pass p).roster.turnOrder = id :: (c.pass p).roster.upcoming)
    (hover : c.roster.startsOver p = true) :
    Fair settings first (c.pass p) ∨
      (¬Orderly first (c.pass p) ∧ ¬(c.pass p).turns.Nodup) := by
  have hturns := turns_pass_of_moved hactive (.inl hmoved)
  have hrestarts := restarts_pass_of_over hround hover
  have hagain : (c.pass p).restarts ≠ 0 := by omega
  have hid : id ∈ (c.pass p).roster.turnOrder := hbegins ▸ List.mem_cons_self
  have hknown := horder.subset hid
  by_cases hdue : Due first c id
  · have hnone : c.restarts = 0 := by
      by_contra hnone
      rw [due_of_restarts hnone, hupcoming] at hdue
      cases hdue.1
    have hspare := (due_of_none hnone).mp hdue
    rw [hupcoming] at hspare
    obtain ⟨hsame, hfront⟩ := hspare.resolve_left List.not_mem_nil
    refine .inl (h.begins hturns ?_ hround.ge horder ?_ (fun hzero => absurd hzero hagain) ?_)
    · exact hround ▸ fun hmem => (h.had id hknown).mp hmem hdue
    · intro other hother
      have hfirst := not_mem_upcoming_of_begins (h.order.sublist horder) hbegins hother
      rw [hround, h.had other (horder.subset hother), due_of_none hnone, due_of_restarts hagain,
        hupcoming, hfirst]
      have hnil : other ∉ ([] : List String) := List.not_mem_nil
      grind
    · refine .inr ⟨by omega, hround.trans hsame, ?_⟩
      rw [hactive]
      rintro other ⟨⟩
      exact hfront
  · refine .inr ⟨?_, h.not_nodup hknown hdue (hround ▸ hturns)⟩
    rintro (hzero | ⟨hone, hsame, hall⟩)
    · exact hagain hzero
    · have hnone : c.restarts = 0 := by omega
      exact hdue ((due_of_none hnone).mpr (.inr ⟨hround ▸ hsame, hall id hactive⟩))

theorem Fair.newRound (h : Fair settings first c)
    (hactive : (c.pass p).roster.activeId? = some id)
    (hround : (c.pass p).roster.round = c.roster.round + 1)
    (horder : (c.pass p).roster.turnOrder.Sublist c.roster.turnOrder)
    (hbegins : (c.pass p).roster.turnOrder = id :: (c.pass p).roster.upcoming) :
    Fair settings first (c.pass p) := by
  have hnew : (c.pass p).roster.round ≠ c.roster.round := by omega
  have hlater := h.later
  have hnone := restarts_pass_of_newRound hnew
  have hfresh : ∀ other, ((c.pass p).roster.round, other) ∉ c.turns := by
    intro other hmem
    have hpast := h.past _ hmem
    dsimp only at hpast
    omega
  refine h.begins (turns_pass_of_moved hactive (.inr hnew)) (hfresh id) (by omega) horder ?_ ?_
    (.inl hnone)
  · intro other hother
    have hfirst := not_mem_upcoming_of_begins (h.order.sublist horder) hbegins hother
    rw [due_of_none hnone, hfirst, or_iff_left (hfresh other), not_or]
    exact (and_iff_left fun hsame => by omega).symm
  · intro _ hsame
    omega

/-- No turn begins. -/
theorem Fair.stays (h : Fair settings first c)
    (hactive : ∀ id ∈ (c.pass p).roster.activeId?, c.roster.activeId? = some id)
    (hround : (c.pass p).roster.round = c.roster.round)
    (horder : (c.pass p).roster.turnOrder.Sublist c.roster.turnOrder)
    (hupcoming : ∀ id ∈ (c.pass p).roster.turnOrder,
      id ∈ (c.pass p).roster.upcoming ↔ id ∈ c.roster.upcoming)
    (hturns : (c.pass p).turns = c.turns)
    (honward : c.roster.startsOver p = false) : Fair settings first (c.pass p) where
  attained := h.attained.pass p
  order := h.order.sublist horder
  later := hround ▸ h.later
  turns := hturns ▸ h.turns
  past := by
    rw [hturns, hround]
    exact h.past
  had := by
    intro id hid
    rw [hturns, hround, h.had id (horder.subset hid), Due, Due,
      restarts_pass_of_onward hround honward, hupcoming id hid, hround]
  apart := by
    rw [restarts_pass_of_onward hround honward, hround]
    intro hnone hsame id hid
    exact h.apart hnone hsame id ((hupcoming id (mem_turnOrder_of_mem_upcoming hid)).mp hid)
  orderly := by
    rw [Orderly, restarts_pass_of_onward hround honward, hround]
    exact h.orderly.imp_right fun ⟨hone, hsame, hall⟩ =>
      ⟨hone, hsame, fun id hid => hall id (hactive id hid)⟩

theorem Fair.pass (h : Fair settings first c)
    (hroom : p = .nextTurn → c.roster.round < Decimal.word32) :
    Fair settings first (c.pass p) ∨
      (¬Orderly first (c.pass p) ∧ ¬(c.pass p).turns.Nodup) := by
  have hroster : (c.pass p).roster = c.roster.pass p := rfl
  cases handOver_pass h.attained.inRange h.order hroom with
  | nobody order round onward =>
    have hnone : (c.pass p).roster.activeId? = none := by
      rw [activeId?, hroster, order]
      rfl
    refine .inl (h.stays (by simp [hnone]) round ?_ ?_ (turns_pass_of_nobody hnone) onward)
    · rw [hroster, order]
      exact List.nil_sublist _
    · rw [hroster, order]
      exact fun id hid => absurd hid List.not_mem_nil
  | stays active round order upcoming onward =>
    have hsame : (c.roster.pass p).turn? = c.roster.turn? := by rw [turn?, turn?, active, round]
    exact .inl (h.stays (fun id hid => active ▸ hid) round order upcoming
      (turns_pass_of_same hsame) onward)
  | goesOn id active moved round order upcoming onward =>
    exact h.goesOn active moved round order upcoming onward
  | newRound id active round order begins => exact .inl (h.newRound active round order begins)
  | startsOver id active moved round order upcoming begins again =>
    exact h.startsOver active moved round order upcoming begins again

end

variable {settings : Settings} {r : Roster}

theorem fair_start (h : Attained settings r) (hnodup : r.turnOrder.Nodup) :
    Fair settings r (start r) where
  attained := h
  order := hnodup
  later := le_rfl
  turns := by
    change r.turn?.toList.Nodup
    cases r.turn? <;> simp
  past := by
    intro t ht
    obtain ⟨id, -, rfl⟩ := Option.map_eq_some_iff.mp (Option.mem_toList.mp ht)
    exact le_rfl
  had := by
    intro id hid
    obtain ⟨front, active, rest, hturn⟩ := h.inRange.exists_turnAt (List.ne_nil_of_mem hid)
    have hturns : (start r).turns = [(r.round, active)] := by
      change r.turn?.toList = _
      rw [turn?, hturn.activeId?_eq]
      rfl
    rw [due_of_none rfl, hturns, List.mem_singleton, Prod.mk.injEq]
    change _ ↔ ¬(id ∈ r.upcoming ∨ _ ∧ id ∈ r.inFront)
    rw [hturn.upcoming_eq, hturn.inFront_eq]
    change id ∈ r.turnOrder at hid
    rw [hturn.order] at hnodup hid
    change r.round = r.round ∧ id = active ↔ ¬(id ∈ rest ∨ r.round = r.round ∧ id ∈ front)
    grind
  apart := by
    intro _ _ id hid hfront
    have hmem : id ∈ r.turnOrder := List.mem_of_mem_drop hid
    obtain ⟨front, active, rest, hturn⟩ := h.inRange.exists_turnAt (List.ne_nil_of_mem hmem)
    change id ∈ r.upcoming at hid
    rw [hturn.upcoming_eq] at hid
    rw [hturn.inFront_eq] at hfront
    rw [hturn.order] at hnodup
    exact (List.nodup_append.mp hnodup).2.2 id hfront id (List.mem_cons_of_mem _ hid) rfl
  orderly := .inl rfl

theorem after_append_singleton (r : Roster) (run : List Passing) (p : Passing) :
    after r (run ++ [p]) = (after r run).pass p := by
  rw [after, List.foldl_append]
  rfl

theorem turns_suffix_pass (c : Course) (p : Passing) : c.turns <:+ (c.pass p).turns := by
  change _ <:+ (if _ then _ else _)
  split
  · exact List.suffix_refl _
  · exact List.suffix_append _ _

theorem round_after_le (r : Roster) (run : List Passing) :
    (after r run).roster.round ≤ r.round + run.count .nextTurn := by
  induction run using List.reverseRecOn with
  | nil => exact Nat.le_refl _
  | append_singleton run p ih =>
    rw [after_append_singleton, List.count_append, ← Nat.add_assoc]
    exact (round_pass_le _ p).trans (Nat.add_le_add_right ih _)

/-- The induction is on the run from its end. Once a turn has come twice, it stays so. -/
theorem fair_after (h : Attained settings r) (hnodup : r.turnOrder.Nodup) (run : List Passing)
    (hroom : r.round + run.count .nextTurn ≤ Decimal.word32) :
    (Fair settings r (after r run) ∧ ∀ before, before <+: run → Orderly r (after r before)) ∨
      (¬(after r run).turns.Nodup ∧ ¬∀ before, before <+: run → Orderly r (after r before)) := by
  induction run using List.reverseRecOn with
  | nil =>
    have hstart := fair_start h hnodup
    refine .inl ⟨hstart, fun before hbefore => ?_⟩
    rw [List.prefix_nil.mp hbefore]
    exact hstart.orderly
  | append_singleton run p ih =>
    rw [List.count_append, ← Nat.add_assoc] at hroom
    have hcounted := round_after_le r run
    have hlast : p = .nextTurn → (after r run).roster.round < Decimal.word32 := by
      rintro rfl
      exact Nat.lt_of_le_of_lt hcounted hroom
    rw [after_append_singleton]
    rcases ih ((Nat.le_add_right _ _).trans hroom) with ⟨hfair, horderly⟩ | ⟨htwice, hnot⟩
    · rcases hfair.pass hlast with hnext | ⟨hnot, htwice⟩
      · refine .inl ⟨hnext, fun before hbefore => ?_⟩
        rcases List.prefix_concat_iff.mp hbefore with rfl | hbefore
        · rw [after_append_singleton]
          exact hnext.orderly
        · exact horderly before hbefore
      · refine .inr ⟨htwice, fun hall => hnot ?_⟩
        rw [← after_append_singleton]
        exact hall _ (List.prefix_refl _)
    · refine .inr ⟨fun hall => htwice (hall.sublist (turns_suffix_pass _ p).sublist), ?_⟩
      exact fun hall => hnot fun before hbefore =>
        hall before (hbefore.trans (List.prefix_append _ _))

/-- From every roster that instructions and turns lead to and whose order names nobody twice: in a
run of turns passed on and of fighters that leave, nobody's turn begins twice in a round if and only
if the course is orderly throughout. This is said of runs in which the count of the rounds has room
for all turns that are passed on: it would begin again behind the last number of 32 bits, and its
numbers would come back. -/
theorem one_turn_a_round (h : Attained settings r) (hnodup : r.turnOrder.Nodup)
    (run : List Passing) (hroom : r.round + run.count .nextTurn ≤ Decimal.word32) :
    (after r run).turns.Nodup ↔ ∀ before, before <+: run → Orderly r (after r before) := by
  rcases fair_after h hnodup run hroom with ⟨hfair, horderly⟩ | ⟨htwice, hnot⟩
  · exact iff_of_true hfair.turns horderly
  · exact iff_of_false htwice hnot

/-- It is the turn of the last of three, who leaves: in the same round the two others have their
turns, which are their first ones in the run. -/
theorem one_turn_a_round_after_last :
    ∃ r : Roster, Attained {} r ∧ r.turnOrder.Nodup ∧ r.inFront = ["G-1", "G-2"] ∧
      (after r [.remove "G-3", .nextTurn]).restarts = 1 ∧
      ∀ before, before <+: [.remove "G-3", .nextTurn, .nextTurn] → Orderly r (after r before) := by
  let batch : List Instruction := [.spriteDef "G" ∅, .place "G" [⟨0, 0⟩, ⟨1, 0⟩, ⟨2, 0⟩]]
  obtain ⟨r, hr⟩ : ∃ r, r = (((empty {}).apply batch).1.nextTurn).nextTurn := ⟨_, rfl⟩
  have hattained : Attained {} r := hr ▸ (Attained.empty.apply batch).nextTurn.nextTurn
  have hnodup : r.turnOrder.Nodup := hr ▸ by decide +kernel
  refine ⟨r, hattained, hnodup, hr ▸ by decide +kernel, hr ▸ by decide +kernel, ?_⟩
  have hroom : r.round + [.remove "G-3", .nextTurn, .nextTurn].count Passing.nextTurn ≤
      Decimal.word32 := hr ▸ by decide +kernel
  exact (one_turn_a_round hattained hnodup _ hroom).mp (hr ▸ by decide +kernel)

/-- The last of three leaves in its own turn, and the first has a second turn in the first round. -/
theorem two_turns_in_round : ∃ r : Roster, Attained {} r ∧ r.turnOrder.Nodup ∧
    (after r [.nextTurn, .nextTurn, .remove "G-3"]).turns =
      [(1, "G-1"), (1, "G-3"), (1, "G-2"), (1, "G-1")] ∧
    ¬(after r [.nextTurn, .nextTurn, .remove "G-3"]).turns.Nodup := by
  let batch : List Instruction := [.spriteDef "G" ∅, .place "G" [⟨0, 0⟩, ⟨1, 0⟩, ⟨2, 0⟩]]
  exact ⟨((empty {}).apply batch).1, Attained.empty.apply batch, by decide +kernel,
    by decide +kernel, by decide +kernel⟩

end Course

end Roster

end Tabletop
