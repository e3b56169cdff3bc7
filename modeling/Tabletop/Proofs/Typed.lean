import Tabletop.Proofs.Session

/-!
# Suggestions are those of the moment

A session keeps the suggestions that were shown last, for a pick by number. Whatever is typed, they
are the suggestions that the roster would give now, or they are gone.

* `Session.Typed`: the sessions that typed lines lead to.
* `Session.Current` is the invariant. A batch and a turn take the suggestions away; the clock and
  everything that is only shown leave the roster alone.
* `Session.advice_of_the_moment` says it of all of them, and `Typed.offered` says it of a pick.
-/

namespace Tabletop.Console.Session

/-- The sessions that typed lines lead to, whatever the lines find around them. -/
inductive Typed : Session → Prop where
  | start (settings : Settings) (token : RefreshToken) : Typed (.start settings token)
  | line {s : Session} (around : Surroundings) (text : String) (h : Typed s) :
      Typed (s.handle around text).session

/-! ## The invariant -/

/-- There are no suggestions, or those that the roster gives now. -/
def Current (s : Session) : Prop := s.advice = none ∨ s.advice = some s.roster.advice

namespace Current

variable {s : Session}

/-- World and journal have no part in it. -/
theorem congr (h : Current s) {s' : Session} (roster : s'.roster = s.roster)
    (advice : s'.advice = s.advice) : Current s' := by
  rw [Current, roster, advice]
  exact h

theorem commit (h : Current s) (around : Surroundings) (batch : List Instruction) :
    Current (s.commit around batch).1 := by
  rw [Session.commit]
  split
  · exact h
  · exact .inl rfl

theorem runScript (h : Current s) (around : Surroundings) (source : String) :
    Current (s.runScript around source).1 :=
  h.commit around _

theorem tickFor (h : Current s) (colored : Bool) (seconds : Float) :
    Current (s.tickFor colored seconds).1 :=
  h.congr rfl rfl

theorem tick (h : Current s) (colored : Bool) (seconds : String) :
    Current (s.tick colored seconds).1 := by
  rw [Session.tick]
  split
  · exact h.tickFor colored _
  · split
    · exact h.tickFor colored _
    · exact h

theorem suggest (s : Session) (colored : Bool) : Current (s.suggest colored).1 := .inr rfl

theorem nextTurn (s : Session) (colored : Bool) : Current (s.nextTurn colored).1 := .inl rfl

/-- A pick takes the suggestions away even if the batch of the suggestion is empty. -/
theorem carryOut (s : Session) (around : Surroundings) (x : Suggestion) :
    Current (s.carryOut around x).1 := .inl rfl

theorem pick (h : Current s) (around : Surroundings) (number : String) :
    Current (s.pick around number).1 :=
  s.pick_cases around number h (carryOut s around)

theorem load (h : Current s) (around : Surroundings) (path : String) :
    Current (s.load around path).1 := by
  rw [Session.load]
  split
  · exact h
  · split
    · exact h
    · exact h.runScript around _

theorem obey (h : Current s) (around : Surroundings) (c : Command) :
    Current (s.obey around c).session := by
  cases c with
  | tick seconds => exact h.tick around.colored seconds
  | suggest => exact suggest s around.colored
  | pick number => exact h.pick around number
  | next => exact nextTurn s around.colored
  | load path => exact h.load around path
  | quit | help | state | dump | unknown name => exact h

theorem handle (h : Current s) (around : Surroundings) (text : String) :
    Current (s.handle around text).session := by
  rw [Session.handle]
  split
  · exact h
  · exact h.obey around _
  · exact h.runScript around _

end Current

theorem Typed.current {s : Session} (h : Typed s) : Current s := by
  induction h with
  | start settings token => exact .inl rfl
  | line around text _ ih => exact ih.handle around text

/-! ## Suggestions of the moment -/

/-- The suggestions that can be picked are never older than the roster. -/
theorem advice_of_the_moment {s : Session} (h : Typed s) :
    s.advice = none ∨ s.advice = some s.roster.advice :=
  h.current

/-- The suggestions are still there after a second line, which moves nothing but the clock. -/
theorem advice_of_the_moment_ticked :
    ∃ s : Session, Typed s ∧ s.advice.isSome ∧
      (s.advice = none ∨ s.advice = some s.roster.advice) := by
  let around : Surroundings := ⟨false, 0, ⟨0⟩, fun _ => .error .missing⟩
  have htyped := (((Typed.start {} ⟨0⟩).line around "CREATE type=goblin @ A1").line around
    ":suggest").line around ":tick 2"
  exact ⟨_, htyped, by decide +kernel, advice_of_the_moment htyped⟩

theorem mem_of_chosen? {a : Advice} {number : String} {x : Suggestion}
    (h : chosen? a number = some x) : x ∈ a.suggestions := by
  obtain ⟨n, -, hx⟩ := Option.bind_eq_some_iff.mp h
  cases n with
  | zero => cases hx
  | succ n => exact List.mem_of_getElem? hx

/-- What a pick carries out is a suggestion of the moment. -/
theorem Typed.offered {s : Session} (h : Typed s) {a : Advice} (ha : s.advice = some a)
    {number : String} {x : Suggestion} (hx : chosen? a number = some x) :
    x ∈ s.roster.advice.suggestions := by
  have hcurrent : a = s.roster.advice := by
    rcases h.current with hnone | hsome
    · rw [ha] at hnone
      cases hnone
    · exact Option.some.inj (ha.symm.trans hsome)
  exact hcurrent ▸ mem_of_chosen? hx

end Tabletop.Console.Session
