import Mathlib.Data.List.Rotate
import Mathlib.Logic.Function.Iterate
import Tabletop.Proofs.Shadows

/-!
# Turns

The place of the turn is kept beside the order of turns. The order is that of creation or one that
initiative has given, and it changes when somebody comes or goes.

* `Roster.TurnChange` lists what one instruction can do to the turns.
* `Roster.Attained`: the rosters that instructions and turns lead to. The place of the turn is
  always one in the order (`Roster.InRange`).
* `Roster.later` is a roster some turns later; `Roster.iterate_nextTurn`.
* `Roster.turns_go_round`: everybody in the order has one turn in each round.
-/

namespace Tabletop

namespace Roster

/-! ## Single instructions -/

/-- What one instruction can do to the turns of a roster. -/
inductive TurnChange (r : Roster) : Roster → Prop where
  | joined {r' : Roster} (ids : r.ids <+: r'.ids) (order : r'.order = r.order)
      (active : r'.active = r.active) (round : r'.round = r.round) : TurnChange r r'
  | left (id : TokenId) : TurnChange r (r.remove id)
  | ordered (order : List String) (values : List (String × Int32)) :
      TurnChange r { r with values, order := some order, active := 0 }
  | cleared : TurnChange r r.withoutFighters
  | wiped : TurnChange r (.empty r.settings)

theorem TurnChange.refl (r : Roster) : TurnChange r r := .joined (List.prefix_refl _) rfl rfl rfl

theorem TurnChange.spawned (sprite : Sprite) (stem : String) (attrs : Attributes) (r : Roster)
    (sprites : List Sprite) (cells : List Cell) :
    TurnChange r ({ r with sprites }.spawn sprite stem attrs cells) := by
  have hids := spawn_ids sprite stem attrs { r with sprites } cells
  obtain ⟨fighters, hview⟩ := spawn_view sprite stem attrs { r with sprites } cells
  rw [hview] at hids ⊢
  refine .joined ?_ rfl rfl rfl
  rw [hids]
  exact Lint.Ledger.prefix_mintOn stem cells.length r.ids

/-- Fighters in another state have the same turns. -/
theorem TurnChange.updated (r : Roster) (p : Fighter → Bool) {f : Fighter → Fighter}
    (hf : ∀ x, (f x).id = x.id) :
    TurnChange r { r with fighters := updateFirst p f r.fighters } := by
  refine .joined ?_ rfl rfl rfl
  rw [ids, ids, map_updateFirst hf]

theorem Change.turnChange {i : Instruction} {r r' : Roster} (h : Change i r r') :
    TurnChange r r' := by
  cases h with
  | spawned found stem cells => exact .spawned _ stem _ r _ cells
  | altered id => exact .updated r _ (by intro x; rfl)
  | sent id cell => exact .updated r _ (by intro x; rfl)
  | removed id => exact .left id
  | ranked settles values => exact .ordered _ values
  | listed settles ids => exact .ordered (ids.map r.canonical) r.values
  | cleared settles => exact .cleared
  | wiped settles => exact .wiped
  | kept => exact .refl r
  | measured grid cols rows => exact .joined (List.prefix_refl _) rfl rfl rfl
  | declared code attrs => exact .joined (List.prefix_refl _) rfl rfl rfl

theorem turnChange_follow (r : Roster) (i : Instruction) : TurnChange r (r.follow i) :=
  (r.change_follow i).turnChange

/-! ## The place of the turn -/

/-- The place of the turn is one in the order, or the first. -/
def InRange (r : Roster) : Prop := r.active = 0 ∨ r.active < r.turnOrder.length

theorem InRange.lt_length {r : Roster} (h : r.InRange) (hsome : r.turnOrder ≠ []) :
    r.active < r.turnOrder.length := by
  rcases h with hfirst | hplace
  · rw [hfirst]
    exact List.length_pos_of_ne_nil hsome
  · exact hplace

theorem InRange.eq_zero {r : Roster} (h : r.InRange) (hnobody : r.turnOrder = []) :
    r.active = 0 := by
  rcases h with hfirst | hplace
  · exact hfirst
  · rw [hnobody] at hplace
    cases hplace

/-- Those who join come at the end of the order, if they come into it at all. -/
theorem prefix_turnOrder {r r' : Roster} (ids : r.ids <+: r'.ids) (order : r'.order = r.order) :
    r.turnOrder <+: r'.turnOrder := by
  rw [turnOrder, turnOrder, order]
  cases r.order with
  | none => exact ids.map TokenId.text
  | some order => exact List.prefix_refl order

theorem placeOfTurn_inRange (before : Option String) (place : Nat) (order : List String) :
    placeOfTurn before place order = 0 ∨ placeOfTurn before place order < order.length := by
  rw [placeOfTurn]
  split
  · rename_i i hfound
    obtain ⟨id, -, hi⟩ := Option.bind_eq_some_iff.mp hfound
    obtain ⟨hlt, -⟩ := List.findIdx?_eq_some_iff_getElem.mp hi
    exact .inr hlt
  · split
    · exact .inl rfl
    · rename_i hplace
      exact .inr (Nat.lt_of_not_le hplace)

theorem TurnChange.inRange {r r' : Roster} (change : TurnChange r r') (h : r.InRange) :
    r'.InRange := by
  cases change with
  | joined ids order active round =>
    rw [InRange, active]
    exact h.imp_right fun hlt => hlt.trans_le (prefix_turnOrder ids order).length_le
  | left id => exact placeOfTurn_inRange _ _ _
  | ordered order values => exact .inl rfl
  | cleared => exact .inl rfl
  | wiped => exact .inl rfl

/-! ## Turn after turn -/

/-- The roster some turns later, when nobody comes or goes. -/
def later (r : Roster) (turns : Nat) : Roster :=
  { r with
    active := (r.active + turns) % r.turnOrder.length
    rounds := r.rounds + UInt32.ofNat ((r.active + turns) / r.turnOrder.length) }

theorem add_ofNat_zero (n : UInt32) : n + UInt32.ofNat 0 = n := UInt32.add_zero n

theorem later_turnOrder (r : Roster) (turns : Nat) : (r.later turns).turnOrder = r.turnOrder := rfl

section Turns

variable {r : Roster}

theorem later_zero (h : r.active < r.turnOrder.length) : r.later 0 = r := by
  rw [later, Nat.add_zero, Nat.mod_eq_of_lt h, Nat.div_eq_of_lt h, add_ofNat_zero]

theorem later_active_lt (h : r.active < r.turnOrder.length) (turns : Nat) :
    (r.later turns).active < (r.later turns).turnOrder.length :=
  Nat.mod_lt _ (Nat.zero_lt_of_lt h)

theorem nextTurn_eq_later (h : r.active < r.turnOrder.length) : r.nextTurn = r.later 1 := by
  have hsome : r.turnOrder.isEmpty = false :=
    List.isEmpty_eq_false_iff.mpr (List.ne_nil_of_length_pos (Nat.zero_lt_of_lt h))
  rw [nextTurn, hsome, later]
  by_cases hlast : r.active + 1 < r.turnOrder.length
  · rw [if_neg Bool.false_ne_true, if_pos hlast, Nat.mod_eq_of_lt hlast, Nat.div_eq_of_lt hlast,
      add_ofNat_zero]
  · have hwraps : r.active + 1 = r.turnOrder.length := by omega
    rw [if_neg Bool.false_ne_true, if_neg hlast, hwraps, Nat.mod_self,
      Nat.div_self (Nat.zero_lt_of_lt h), UInt32.ofNat_one]

theorem later_later (h : r.active < r.turnOrder.length) (first second : Nat) :
    (r.later first).later second = r.later (first + second) := by
  have hround : (r.active + first) / r.turnOrder.length +
      ((r.active + first) % r.turnOrder.length + second) / r.turnOrder.length =
        (r.active + (first + second)) / r.turnOrder.length := by
    rw [← Nat.mul_add_div (Nat.zero_lt_of_lt h), ← Nat.add_assoc, Nat.div_add_mod, Nat.add_assoc]
  rw [later, later_turnOrder, later, later, Nat.mod_add_mod, Nat.add_assoc r.active,
    UInt32.add_assoc, ← UInt32.ofNat_add, hround]

theorem iterate_nextTurn (h : r.active < r.turnOrder.length) (turns : Nat) :
    nextTurn^[turns] r = r.later turns := by
  induction turns with
  | zero => exact (later_zero h).symm
  | succ turns ih =>
    rw [Function.iterate_succ_apply', ih, nextTurn_eq_later (later_active_lt h turns),
      later_later h]

/-- After as many turns as there are places it is the same place's turn, one round later. -/
theorem later_length (h : r.active < r.turnOrder.length) :
    r.later r.turnOrder.length = { r with rounds := r.rounds + 1 } := by
  rw [later, Nat.add_mod_right, Nat.mod_eq_of_lt h, Nat.add_div_right _ (Nat.zero_lt_of_lt h),
    Nat.div_eq_of_lt h, Nat.zero_add, UInt32.ofNat_one]

/-- The places whose turn it is, one turn after the other. -/
theorem map_later_active (r : Roster) :
    ((List.range r.turnOrder.length).map fun turns => (r.later (turns + 1)).active) =
      (List.range r.turnOrder.length).rotate (r.active + 1) := by
  refine List.ext_getElem (by simp) fun turns hturns _ => ?_
  rw [List.getElem_map, List.getElem_rotate, List.getElem_range, List.getElem_range,
    List.length_range, later, Nat.add_left_comm]

end Turns

/-! ## Rounds -/

theorem toNat_rounds_succ {r : Roster} (h : r.round < Decimal.word32) :
    (r.rounds + 1).toNat = r.round + 1 := by
  rw [round, Decimal.word32] at h
  rw [UInt32.toNat_add, UInt32.toNat_one, round, Nat.mod_eq_of_lt (by omega)]

/-- Less than two times the whole order is at most one round further. -/
theorem later_rounds {r : Roster} {turns : Nat} (h : r.active + turns < r.turnOrder.length * 2) :
    (r.later turns).rounds = r.rounds ∨ (r.later turns).rounds = r.rounds + 1 := by
  have hle : (r.active + turns) / r.turnOrder.length ≤ 1 :=
    Nat.le_of_lt_succ (Nat.div_lt_of_lt_mul h)
  rw [later]
  rcases Nat.le_one_iff_eq_zero_or_eq_one.mp hle with hzero | hone
  · exact .inl (by rw [hzero, add_ofNat_zero])
  · exact .inr (by rw [hone, UInt32.ofNat_one])

/-- The rosters that instructions and turns lead to. -/
inductive Attained (settings : Settings) : Roster → Prop where
  | empty : Attained settings (.empty settings)
  | follow {r : Roster} (i : Instruction) (h : Attained settings r) : Attained settings (r.follow i)
  | nextTurn {r : Roster} (h : Attained settings r) : Attained settings r.nextTurn

namespace Attained

variable {settings : Settings} {r : Roster}

theorem apply (h : Attained settings r) (batch : List Instruction) :
    Attained settings (r.apply batch).1 := by
  rw [apply_eq_foldl]
  induction batch generalizing r with
  | nil => exact h
  | cons i batch ih => exact ih (h.follow i)

theorem inRange (h : Attained settings r) : r.InRange := by
  induction h with
  | empty => exact .inl rfl
  | follow i _ ih => exact (turnChange_follow _ i).inRange ih
  | @nextTurn r _ ih =>
    by_cases hnobody : r.turnOrder = []
    · rw [Roster.nextTurn, if_pos (List.isEmpty_iff.mpr hnobody)]
      exact ih
    · have hplace := ih.lt_length hnobody
      rw [nextTurn_eq_later hplace]
      exact .inr (later_active_lt hplace 1)

end Attained

/-- What definitions hand on holds throughout every roster that instructions and turns lead to. -/
theorem Attained.throughout {S : Sprite → Prop} {F : Fighter → Prop} (hinherited : Heritable S F)
    {settings : Settings} {r : Roster} (h : Attained settings r) : Throughout S F r := by
  induction h with
  | empty => exact throughout_empty settings
  | @follow r i _ ih => exact ih.change hinherited (r.change_follow i)
  | @nextTurn r _ ih => exact r.nextTurn_cases ih fun _ _ => ⟨ih.sprites, ih.fighters⟩

/-- In every roster that instructions and turns lead to, the place of the turn is one in the order,
or the first where there is nobody. As many turns as there are places go to each place exactly once
and come back to where they began, one round later, where the count of the rounds only wraps around
after the last number of 32 bits; in between, neither the order nor anything else changes, and the
round is this one or the next. -/
theorem turns_go_round {settings : Settings} {r : Roster} (h : Attained settings r) :
    ((r.turnOrder = [] ∧ r.active = 0) ∨ r.active < r.turnOrder.length) ∧
      (r.turnOrder ≠ [] →
        ((List.range r.turnOrder.length).map fun turns => (nextTurn^[turns + 1] r).active).Perm
            (List.range r.turnOrder.length) ∧
          nextTurn^[r.turnOrder.length] r = { r with rounds := r.rounds + 1 } ∧
          (r.round < Decimal.word32 → (nextTurn^[r.turnOrder.length] r).round = r.round + 1) ∧
          ∀ turns < r.turnOrder.length, ∃ active rounds, (rounds = r.rounds ∨ rounds = r.rounds + 1) ∧
            nextTurn^[turns] r = { r with active, rounds }) := by
  have hrange := h.inRange
  refine ⟨?_, fun hsome => ?_⟩
  · by_cases hnobody : r.turnOrder = []
    · exact .inl ⟨hnobody, hrange.eq_zero hnobody⟩
    · exact .inr (hrange.lt_length hnobody)
  · have hplace := hrange.lt_length hsome
    simp only [iterate_nextTurn hplace]
    refine ⟨?_, later_length hplace, fun hroom => ?_, fun turns hturns => ⟨_, _, ?_, rfl⟩⟩
    · rw [map_later_active]
      exact List.rotate_perm _ _
    · rw [later_length hplace]
      exact toNat_rounds_succ hroom
    · exact later_rounds (by omega)

/-- It is the turn of the last of three when the first one leaves. Two turns later it is that of the
last one again, in the next round. -/
theorem turns_go_round_without_first :
    ∃ r : Roster, Attained {} r ∧ r.turnOrder = ["G-1", "G-2"] ∧ r.active = 1 ∧
      [(nextTurn r).active, (nextTurn^[2] r).active].Perm [0, 1] ∧
      nextTurn^[2] r = { r with rounds := r.rounds + 1 } := by
  let batch : List Instruction :=
    [.spriteDef "G" ∅, .place "G" [⟨0, 0⟩, ⟨1, 0⟩, ⟨2, 0⟩],
      .initiative none ["G-3", "G-1", "G-2"]]
  have hthree : Attained {} ((empty {}).apply batch).1 := Attained.empty.apply batch
  obtain ⟨r, hattained, horder, hactive⟩ :
      ∃ r : Roster, Attained {} r ∧ r.turnOrder = ["G-1", "G-2"] ∧ r.active = 1 :=
    ⟨_, hthree.nextTurn.nextTurn.follow (.remove "G-3"), by decide +kernel, by decide +kernel⟩
  obtain ⟨-, hturns⟩ := turns_go_round hattained
  obtain ⟨hplaces, hround, -⟩ := hturns (by rw [horder]; exact List.cons_ne_nil _ _)
  rw [horder] at hplaces hround
  exact ⟨r, hattained, horder, hactive, hplaces, hround⟩

end Roster

end Tabletop
