import Mathlib.Data.List.Forall2
import Mathlib.Data.List.Nodup
import Tabletop.Proofs.Reachable

/-!
# What a tick changes

The clock takes the walks one after the other and changes the tokens as it goes. Where an id belongs
to one token and a token is on one walk, the order does not matter: every token goes its own way.

* `Clock.walked` is a token after a tick and `Clock.continued?` a walk. `Clock.advanceWalks_eq` puts
  all tokens and walks together from them, whatever the arithmetic of the clock is.
* `Walk.LedOn` and `Effect.Aged` are what is left of a walk and of an effect.
* `World.tick_accounts`: every walk goes on or has arrived, every effect goes on or has ended, and
  nothing else is any different.
-/

namespace Tabletop

variable {α : Type}

theorem find?_updateFirst_of_not {p q : α → Bool} {f : α → α}
    (h : ∀ a, p a = true → q a = false ∧ q (f a) = false) (l : List α) :
    (updateFirst p f l).find? q = l.find? q := by
  induction l with
  | nil => rfl
  | cons a rest ih =>
    rw [updateFirst]
    split
    · rename_i ha
      obtain ⟨hbefore, hafter⟩ := h a ha
      rw [List.find?_cons_of_neg (by simp [hafter]), List.find?_cons_of_neg (by simp [hbefore])]
    · rw [List.find?_cons, List.find?_cons, ih]

/-- Where a key tells the elements apart, an element is found by its key. -/
theorem find?_of_nodup {β : Type} [DecidableEq β] {key : α → β} {l : List α}
    (h : (l.map key).Nodup) {a : α} (ha : a ∈ l) : l.find? (key · == key a) = some a := by
  cases hfind : l.find? (key · == key a) with
  | none => exact absurd (beq_self_eq_true (key a)) (List.find?_eq_none.mp hfind a ha)
  | some b =>
    have hkey : key b = key a := by simpa using List.find?_some hfind
    rw [List.inj_on_of_nodup_map h (List.mem_of_find?_eq_some hfind) ha hkey]

/-! ## What is left of a walk and of an effect -/

/-- The same walk, no earlier on its path. -/
structure Walk.LedOn (w w' : Walk α) : Prop where
  token : w'.token = w.token
  path : w'.path = w.path
  speed : w'.speed = w.speed
  index : w.index ≤ w'.index

/-- The same effect at another age. -/
def Effect.Aged (e e' : Effect α) : Prop := e' = { e with age := e'.age }

variable [Quantity α]

theorem Walk.ledOn_advance (epsilon time : α) (w : Walk α) (position : Point α) :
    w.LedOn (w.advance epsilon time position).1 := ⟨rfl, rfl, rfl, Nat.le_add_right _ _⟩

/-! ## Tokens and walks -/

namespace Clock

variable (c : Clock α) (time : α)

/-- A token after it has gone its way, where there are these walks. -/
def walked (walks : List (Walk α)) (t : Token α) : Token α :=
  match walks.find? (·.token == t.id) with
  | some w => { t with position := (w.advance c.epsilon time t.position).2 }
  | none => t

/-- A walk after its token has gone on, if the token is one of these. -/
def continued? (tokens : List (Token α)) (w : Walk α) : Option (Walk α) :=
  (tokens.find? (·.id == w.token)).map fun t => (w.advance c.epsilon time t.position).1

theorem walked_of_not_mem {walks : List (Walk α)} {t : Token α}
    (h : t.id ∉ walks.map (·.token)) : c.walked time walks t = t := by
  have hnone : walks.find? (·.token == t.id) = none := by
    refine List.find?_eq_none.mpr fun w hw hwalk => h ?_
    exact List.mem_map.mpr ⟨w, hw, beq_iff_eq.mp hwalk⟩
  rw [walked, hnone]

theorem walked_cons_self {w : Walk α} {t : Token α} (h : t.id = w.token) (walks : List (Walk α)) :
    c.walked time (w :: walks) t =
      { t with position := (w.advance c.epsilon time t.position).2 } := by
  rw [walked, List.find?_cons_of_pos (by simp [h])]

theorem walked_cons_of_ne {w : Walk α} {t : Token α} (h : t.id ≠ w.token)
    (walks : List (Walk α)) : c.walked time (w :: walks) t = c.walked time walks t := by
  rw [walked, List.find?_cons_of_neg (by simpa using h.symm), walked]

/-- The first walk leads its token on, and no walk after it leads the same one. -/
theorem map_walked_updateFirst {tokens : List (Token α)} (hdistinct : (tokens.map (·.id)).Nodup)
    {w : Walk α} {rest : List (Walk α)} (hnot : w.token ∉ rest.map (·.token)) {token : Token α}
    (hfind : tokens.find? (·.id == w.token) = some token) :
    (updateFirst (·.id == w.token)
        ({ · with position := (w.advance c.epsilon time token.position).2 }) tokens).map
        (c.walked time rest) =
      tokens.map (c.walked time (w :: rest)) := by
  rw [updateFirst_eq_map w.token _ hdistinct, List.map_map]
  refine List.map_congr_left fun t ht => ?_
  rw [Function.comp_apply]
  by_cases hid : t.id = w.token
  · have htoken : tokens.find? (·.id == t.id) = some t := find?_of_nodup hdistinct ht
    rw [hid, hfind] at htoken
    cases htoken
    rw [if_pos hid, c.walked_cons_self time hid, c.walked_of_not_mem time]
    exact hid ▸ hnot
  · rw [if_neg hid, c.walked_cons_of_ne time hid]

/-- No walk after the first one looks its token up. -/
theorem filterMap_continued_updateFirst (tokens : List (Token α)) {w : Walk α}
    {rest : List (Walk α)} (hnot : w.token ∉ rest.map (·.token)) (position : Point α) :
    rest.filterMap
        (c.continued? time (updateFirst (·.id == w.token) ({ · with position }) tokens)) =
      rest.filterMap (c.continued? time tokens) := by
  refine List.filterMap_congr fun v hv => ?_
  have hother : w.token ≠ v.token := fun heq => hnot (List.mem_map.mpr ⟨v, hv, heq.symm⟩)
  rw [continued?, continued?, find?_updateFirst_of_not]
  intro t ht
  rw [beq_iff_eq.mp ht]
  exact ⟨beq_eq_false_iff_ne.mpr hother, beq_eq_false_iff_ne.mpr hother⟩

/-- Every token goes its own way. -/
theorem advanceWalks_eq {tokens : List (Token α)} {walks : List (Walk α)}
    (hdistinct : (tokens.map (·.id)).Nodup) (hone : (walks.map (·.token)).Nodup) :
    c.advanceWalks time tokens walks =
      (tokens.map (c.walked time walks),
        (walks.filterMap (c.continued? time tokens)).filter (!·.isFinished),
        ((walks.filterMap (c.continued? time tokens)).filter (·.isFinished)).map (·.token)) := by
  induction walks generalizing tokens with
  | nil =>
    have hsame : tokens.map (c.walked time []) = tokens := List.map_id tokens
    rw [hsame]
    rfl
  | cons w rest ih =>
    obtain ⟨hnot, hone⟩ := List.nodup_cons.mp hone
    rw [advanceWalks]
    cases hfind : tokens.find? (·.id == w.token) with
    | none =>
      have hskip : c.continued? time tokens w = none := by rw [continued?, hfind, Option.map_none]
      have hothers : tokens.map (c.walked time (w :: rest)) = tokens.map (c.walked time rest) :=
        List.map_congr_left fun t ht => c.walked_cons_of_ne time
          (fun hid => List.find?_eq_none.mp hfind t ht (beq_iff_eq.mpr hid)) rest
      rw [List.filterMap_cons_none hskip, hothers]
      exact ih hdistinct hone
    | some token =>
      dsimp only
      have htokens := c.map_walked_updateFirst time hdistinct hnot hfind
      have hwalks := c.filterMap_continued_updateFirst time tokens hnot
        (w.advance c.epsilon time token.position).2
      generalize hmoved : updateFirst (·.id == w.token)
        ({ · with position := (w.advance c.epsilon time token.position).2 }) tokens = moved
        at htokens hwalks ⊢
      have hids : moved.map (·.id) = tokens.map (·.id) := by
        rw [← hmoved]
        exact map_updateFirst (by intro t; rfl) tokens
      have hgoes : c.continued? time tokens w =
          some (w.advance c.epsilon time token.position).1 := by
        rw [continued?, hfind, Option.map_some]
      rw [ih (hids ▸ hdistinct) hone, htokens, hwalks, List.filterMap_cons_some hgoes]
      cases hfinished : (w.advance c.epsilon time token.position).1.isFinished with
      | true =>
        rw [if_pos rfl, List.filter_cons_of_neg (by simp [hfinished]),
          List.filter_cons_of_pos (by simp [hfinished])]
        rfl
      | false =>
        rw [if_neg Bool.false_ne_true, List.filter_cons_of_pos (by simp [hfinished]),
          List.filter_cons_of_neg (by simp [hfinished])]

/-- The walks of the tokens that are there go on in their order. -/
theorem forall₂_continued (tokens : List (Token α)) (walks : List (Walk α)) :
    List.Forall₂ Walk.LedOn (walks.filter fun w => w.token ∈ tokens.map (·.id))
      (walks.filterMap (c.continued? time tokens)) := by
  induction walks with
  | nil => exact .nil
  | cons w rest ih =>
    cases hfind : tokens.find? (·.id == w.token) with
    | none =>
      have hgone : w.token ∉ tokens.map (·.id) := fun hmem => by
        obtain ⟨t, ht, hid⟩ := List.mem_map.mp hmem
        exact List.find?_eq_none.mp hfind t ht (beq_iff_eq.mpr hid)
      rw [List.filter_cons_of_neg (by simpa using hgone),
        List.filterMap_cons_none (by rw [continued?, hfind, Option.map_none])]
      exact ih
    | some t =>
      have hthere : w.token ∈ tokens.map (·.id) :=
        List.mem_map.mpr ⟨t, List.mem_of_find?_eq_some hfind, by simpa using List.find?_some hfind⟩
      rw [List.filter_cons_of_pos (by simpa using hthere),
        List.filterMap_cons_some (by rw [continued?, hfind, Option.map_some])]
      exact .cons (w.ledOn_advance c.epsilon time t.position) ih

/-- A walk that is over has led its token to the end of the path. -/
theorem exists_walked_of_finished {tokens : List (Token α)} {walks : List (Walk α)}
    (hone : (walks.map (·.token)).Nodup) (hahead : ∀ w ∈ walks, w.index < w.path.length)
    {w : Walk α} (hw : w ∈ walks.filterMap (c.continued? time tokens))
    (hfinished : w.isFinished = true) :
    ∃ t ∈ tokens.map (c.walked time walks), t.id = w.token ∧
      some t.position = w.path.getLast? := by
  obtain ⟨v, hv, hcontinued⟩ := List.mem_filterMap.mp hw
  obtain ⟨t, hfind, rfl⟩ := Option.map_eq_some_iff.mp hcontinued
  have hid : t.id = v.token := by simpa using List.find?_some hfind
  have hwalk : walks.find? (·.token == t.id) = some v := hid ▸ find?_of_nodup hone hv
  have hwalked : c.walked time walks t =
      { t with position := (v.advance c.epsilon time t.position).2 } := by
    rw [walked, hwalk]
  refine ⟨_, List.mem_map_of_mem (List.mem_of_find?_eq_some hfind), ?_, ?_⟩
  · rw [hwalked]
    exact hid
  · rw [hwalked]
    exact Walk.advance_of_finished (hahead v hv) hfinished

theorem forall₂_walked (tokens : List (Token α)) (walks : List (Walk α)) :
    List.Forall₂ (fun t t' => t' = { t with position := t'.position } ∧
        (t.id ∉ walks.map (·.token) → t' = t))
      tokens (tokens.map (c.walked time walks)) := by
  rw [List.forall₂_map_right_iff, List.forall₂_same]
  intro t ht
  refine ⟨?_, c.walked_of_not_mem time⟩
  rw [walked]
  split
  · rfl
  · rfl

theorem forall₂_older (effects : List (Effect α)) :
    List.Forall₂ Effect.Aged effects (effects.map (older time)) := by
  rw [List.forall₂_map_right_iff, List.forall₂_same]
  intro e _
  rfl

end Clock

/-! ## Worlds -/

namespace World

/-- Where ids are those of one token each, no token is on two walks and every walk has a waypoint
ahead, a tick leads the walks of the tokens that are there on, in their order: those that are over
have arrived, and their tokens stand at the end of the path. All effects grow older, and in their
order they stay or are over. A token without a walk is left as it is, every other one is no different
but for its position, and the rest of the world is the same. -/
theorem tick_accounts {w : World} (hdistinct : w.scene.ids.Nodup)
    (hone : (w.scene.walks.map (·.token)).Nodup)
    (hahead : ∀ walk ∈ w.scene.walks, walk.index < walk.path.length) (c : Clock Float)
    (seconds : Float) :
    let w' := (w.tick c seconds).1
    let report := (w.tick c seconds).2
    (∃ led, List.Forall₂ Walk.LedOn (w.scene.walks.filter (·.token ∈ w.scene.ids)) led ∧
      w'.scene.walks = led.filter (!·.isFinished) ∧
      report.arrived = (led.filter (·.isFinished)).map (·.token) ∧
      (∀ walk ∈ w'.scene.walks, walk.index < walk.path.length) ∧
      ∀ walk ∈ led, walk.isFinished = true →
        ∃ t ∈ w'.scene.tokens, t.id = walk.token ∧ some t.position = walk.path.getLast?) ∧
    (∃ aged, List.Forall₂ Effect.Aged w.scene.effects aged ∧
      w'.scene.effects = aged.filter (!Clock.isExpired ·) ∧
      report.expired = (aged.filter Clock.isExpired).map (·.id)) ∧
    List.Forall₂ (fun t t' => t' = { t with position := t'.position } ∧
        (t.id ∉ w.scene.walks.map (·.token) → t' = t))
      w.scene.tokens w'.scene.tokens ∧
    w'.board = w.board ∧ w'.sprites = w.sprites ∧ w'.lastEffect = w.lastEffect := by
  intro w' report
  let time := c.elapsed seconds
  have heq := c.advanceWalks_eq time hdistinct hone
  have htokens : w'.scene.tokens = w.scene.tokens.map (c.walked time w.scene.walks) :=
    congrArg (·.1) heq
  have hwalks : w'.scene.walks =
      (w.scene.walks.filterMap (c.continued? time w.scene.tokens)).filter (!·.isFinished) :=
    congrArg (·.2.1) heq
  refine ⟨⟨_, c.forall₂_continued time w.scene.tokens w.scene.walks, hwalks, congrArg (·.2.2) heq,
    c.advanceWalks_underway time w.scene.tokens w.scene.walks, ?_⟩,
    ⟨_, Clock.forall₂_older time w.scene.effects, rfl, rfl⟩, ?_, rfl, rfl, rfl⟩
  · rw [htokens]
    exact fun walk hwalk => c.exists_walked_of_finished time hone hahead hwalk
  · rw [htokens]
    exact c.forall₂_walked time w.scene.tokens w.scene.walks

/-- One goblin stands, one gets past two corners of its way, one gets to the end of its way, and of a
fourth there is only its walk. A blow is over, smoke is not. -/
theorem tick_accounts_march :
    ∃ w : World, w.scene.ids.Nodup ∧ (w.scene.walks.map (·.token)).Nodup ∧
      (∀ walk ∈ w.scene.walks, walk.index < walk.path.length) ∧
      w.scene.walks.map (fun walk => (walk.token, walk.index)) =
        [(⟨"G", 4⟩, 0), (⟨"G", 2⟩, 0), (⟨"G", 3⟩, 1)] ∧
      ∃ w', w.tick (.ofSettings {}) 1 = (w', ⟨[⟨"G", 3⟩], [1]⟩) ∧
        w'.scene.walks.map (fun walk => (walk.token, walk.index)) = [(⟨"G", 2⟩, 2)] ∧
        w'.effectIds = [2] ∧ w'.scene.token? ⟨"G", 1⟩ = w.scene.token? ⟨"G", 1⟩ ∧
        (∃ led, List.Forall₂ Walk.LedOn (w.scene.walks.filter (·.token ∈ w.scene.ids)) led ∧
          w'.scene.walks = led.filter (!·.isFinished) ∧
          ∀ walk ∈ led, walk.isFinished = true →
            ∃ t ∈ w'.scene.tokens, t.id = walk.token ∧ some t.position = walk.path.getLast?) ∧
        w'.board = w.board := by
  let rules : Rules := .ofSettings {} 0
  let batch : List Instruction :=
    [.board 9 9, .spriteDef "G" ∅, .place "G" [⟨0, 0⟩, ⟨1, 0⟩, ⟨2, 0⟩],
      .move "G-2" (.waypoints [⟨1, 1⟩, ⟨3, 1⟩, ⟨3, 8⟩]), .move "G-3" (.to ⟨5, 0⟩),
      .attack "G-2" "G-1" .physical none none, .effect "smoke" ⟨4, 0⟩ none none]
  let marching := (World.empty.apply rules batch).1
  let stray : Walk Float := ⟨⟨"G", 4⟩, [⟨7, 7⟩], 0, 4⟩
  obtain ⟨w, hw⟩ : ∃ w : World, w =
    { marching with scene := { marching.scene with walks := stray :: marching.scene.walks } } :=
    ⟨_, rfl⟩
  have hdistinct : w.scene.ids.Nodup := hw ▸ by decide +kernel
  have hone : (w.scene.walks.map (·.token)).Nodup := hw ▸ by decide +kernel
  have hahead : ∀ walk ∈ w.scene.walks, walk.index < walk.path.length := hw ▸ by decide +kernel
  have hreport : (w.tick (.ofSettings {}) 1).2 = ⟨[⟨"G", 3⟩], [1]⟩ := hw ▸ by decide +kernel
  obtain ⟨⟨led, hled, hwalks, -, -, hends⟩, -, -, hboard, -⟩ :=
    tick_accounts hdistinct hone hahead (.ofSettings {}) 1
  exact ⟨w, hdistinct, hone, hahead, hw ▸ by decide +kernel, _, Prod.ext rfl hreport,
    hw ▸ by decide +kernel, hw ▸ by decide +kernel, hw ▸ by decide +kernel,
    ⟨led, hled, hwalks, hends⟩, hboard⟩

end World

end Tabletop
