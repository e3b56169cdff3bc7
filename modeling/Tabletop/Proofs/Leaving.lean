import Tabletop.Proofs.Rounds

/-!
# A bystander leaves

When somebody leaves, the turn is looked up in the order that is left. The order may name somebody
twice, and it may name somebody who is not there.

* `Roster.activeId?_remove_of_ne`: it stays the turn of the same one, unless this one has left.
* `Roster.bystander_leaves`: somebody who leaves out of turn changes nothing else in the order, and
  neither the turn nor the round.
-/

namespace Tabletop

namespace Roster

theorem getElem?_placeOfTurn {id : String} {order : List String} (h : id ∈ order) (place : Nat) :
    order[placeOfTurn (some id) place order]? = some id := by
  have hfound : (order.findIdx? (· == id)).isSome = true := by
    rw [List.findIdx?_isSome, List.any_eq_true]
    exact ⟨id, h, beq_self_eq_true id⟩
  obtain ⟨i, hi⟩ := Option.isSome_iff_exists.mp hfound
  obtain ⟨hlt, hentry, -⟩ := List.findIdx?_eq_some_iff_getElem.mp hi
  rw [placeOfTurn, Option.bind_some, hi]
  exact (List.getElem?_eq_getElem hlt).trans (congrArg some (eq_of_beq hentry))

/-- It is nobody's turn only where there is nobody. -/
theorem InRange.turnOrder_eq_nil {r : Roster} (h : r.InRange) (hnone : r.activeId? = none) :
    r.turnOrder = [] := by
  by_contra hsome
  rw [activeId?, List.getElem?_eq_getElem (h.lt_length hsome)] at hnone
  cases hnone

theorem activeId?_remove_of_ne {r : Roster} (h : r.InRange) {gone : TokenId}
    (hother : r.activeId? ≠ some gone.text) : (r.remove gone).activeId? = r.activeId? := by
  cases hactive : r.activeId? with
  | none =>
    rw [activeId?, turnOrder_remove, h.turnOrder_eq_nil hactive]
    rfl
  | some id =>
    have hstays : id ≠ gone.text := fun heq => hother (hactive.trans (congrArg some heq))
    have hmem : id ∈ (r.remove gone).turnOrder := by
      rw [turnOrder_remove]
      exact List.mem_filter.mpr ⟨List.mem_of_getElem? hactive, bne_iff_ne.mpr hstays⟩
    rw [activeId?, active_remove, hactive, getElem?_placeOfTurn hmem]

/-- In every roster that instructions and turns lead to: when somebody leaves whose turn it is not,
it stays the same turn of the same round, and the order loses the entries of the one who has left
and keeps all others as they stand. When nobody is found who could leave, nothing changes. -/
theorem bystander_leaves {settings : Settings} {r : Roster} (h : Attained settings r)
    (reference : String) :
    (∀ f, r.fighter? reference = some f → r.activeId? ≠ some f.id.text →
      ∃ r', r.apply [.remove reference] = (r', []) ∧ r'.activeId? = r.activeId? ∧
        r'.round = r.round ∧ r'.turnOrder = r.turnOrder.filter (· != f.id.text)) ∧
    (r.fighter? reference = none → (r.apply [.remove reference]).1 = r) := by
  refine ⟨fun f hfound hother => ⟨r.remove f.id, ?_, ?_, rfl, r.turnOrder_remove f.id⟩,
    fun hnone => ?_⟩
  · unfold apply step
    simp only [hfound]
    rfl
  · exact activeId?_remove_of_ne h.inRange hother
  · rw [apply_eq_foldl]
    exact pass_remove_of_none hnone

/-- The order names the one whose turn it is twice, the one who leaves twice, and somebody who is not
there. -/
theorem bystander_leaves_twice_listed :
    ∃ r : Roster, Attained {} r ∧ r.activeId? = some "G-2" ∧ r.active = 3 ∧
      r.turnOrder = ["G-2", "G-1", "ghost", "G-2", "G-1"] ∧
      (∃ r', r.apply [.remove "G-1"] = (r', []) ∧ r'.activeId? = some "G-2" ∧
        r'.round = r.round ∧ r'.turnOrder = ["G-2", "ghost", "G-2"]) ∧
      (r.apply [.remove "ghost"]).1 = r := by
  let batch : List Instruction :=
    [.spriteDef "G" ∅, .place "G" [⟨0, 0⟩, ⟨1, 0⟩, ⟨2, 0⟩],
      .initiative none ["G-2", "G-1", "ghost", "G-2", "G-1"]]
  have hthree : Attained {} ((empty {}).apply batch).1 := Attained.empty.apply batch
  obtain ⟨r, hr⟩ : ∃ r, r = ((empty {}).apply batch).1.nextTurn.nextTurn.nextTurn := ⟨_, rfl⟩
  have hattained : Attained {} r := hr ▸ hthree.nextTurn.nextTurn.nextTurn
  have hactive : r.activeId? = some "G-2" := hr ▸ by decide +kernel
  have horder : r.turnOrder = ["G-2", "G-1", "ghost", "G-2", "G-1"] := hr ▸ by decide +kernel
  have hthere : (r.fighter? "G-1").map (·.id.text) = some "G-1" := hr ▸ by decide +kernel
  obtain ⟨f, hfound, hf⟩ := Option.map_eq_some_iff.mp hthere
  obtain ⟨r', hleaves, hturn, hround, hrest⟩ :=
    (bystander_leaves hattained "G-1").1 f hfound (by rw [hactive, hf]; decide)
  refine ⟨r, hattained, hactive, hr ▸ by decide +kernel, horder, ⟨r', hleaves, ?_, hround, ?_⟩, ?_⟩
  · rw [hturn, hactive]
  · rw [hrest, horder, hf]
    decide
  · exact (bystander_leaves hattained "ghost").2 (hr ▸ by decide +kernel)

end Roster

end Tabletop
