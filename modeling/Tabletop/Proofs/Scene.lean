import Tabletop.World.Clock

/-!
# Well-formed scenes

What is always so about the tokens of a scene and their walks, and where the tokens come to rest.

* `Scene.WellFormed`: no two tokens share an id, no two walks share a token, and every walk is that
  of a live token and has a waypoint ahead.
* Each operation on a scene preserves it: `WellFormed.addToken`, `WellFormed.setWalk`,
  `WellFormed.remove`, `wellFormed_clearTokens`, and `WellFormed.tick` for the clock.
* `Scene.restingPlaces` lists for each token the end of its walk, or the place where it stands when
  it has none. `restingPlaces_tick`: the clock does not change them, whatever its arithmetic is.
-/

namespace Tabletop

/-! ## The change of one element -/

section UpdateFirst

variable {α β : Type}

theorem map_updateFirst {p : α → Bool} {f : α → α} {g : α → β} (h : ∀ a, g (f a) = g a)
    (l : List α) : (updateFirst p f l).map g = l.map g := by
  induction l with
  | nil => rfl
  | cons a rest ih =>
    rw [updateFirst]
    split
    · rw [List.map_cons, List.map_cons, h a]
    · rw [List.map_cons, List.map_cons, ih]

/-- Where a key tells the elements apart, the first element with a key is the only one. -/
theorem updateFirst_eq_map [DecidableEq β] {key : α → β} (x : β) (f : α → α) {l : List α}
    (h : (l.map key).Nodup) :
    updateFirst (key · == x) f l = l.map fun a => if key a = x then f a else a := by
  induction l with
  | nil => rfl
  | cons a rest ih =>
    obtain ⟨hnot, hrest⟩ := List.nodup_cons.mp h
    rw [updateFirst, List.map_cons]
    by_cases ha : key a = x
    · rw [if_pos (beq_iff_eq.mpr ha), if_pos ha]
      have hothers : ∀ b ∈ rest, key b ≠ x := fun b hb hbx =>
        hnot (ha.trans hbx.symm ▸ List.mem_map_of_mem hb)
      have hsame : (rest.map fun a => if key a = x then f a else a) = rest.map id :=
        List.map_congr_left fun b hb => if_neg (hothers b hb)
      rw [hsame, List.map_id]
    · rw [if_neg (by simpa using ha), if_neg ha, ih hrest]

theorem updateFirst_of_fixed {p : α → Bool} {f : α → α} {l : List α} {a : α}
    (h : l.find? p = some a) (hf : f a = a) : updateFirst p f l = l := by
  induction l with
  | nil => rfl
  | cons b rest ih =>
    rw [updateFirst]
    by_cases hb : p b = true
    · rw [List.find?_cons_of_pos hb, Option.some.injEq] at h
      rw [if_pos hb, h, hf]
    · rw [List.find?_cons_of_neg hb] at h
      rw [if_neg hb, ih h]

/-- A search for a property finds an element again that is changed, and is the first with another
property, too, which implies the one that is looked for. -/
theorem find?_updateFirst_of_imp {p q : α → Bool} {f : α → α} {l : List α} {a : α}
    (h : l.find? p = some a) (hq : q a = true) (himp : ∀ b, q b = true → p b = true)
    (hf : p (f a) = true) : (updateFirst q f l).find? p = some (f a) := by
  induction l with
  | nil => cases h
  | cons b rest ih =>
    rw [updateFirst]
    by_cases hb : p b = true
    · rw [List.find?_cons_of_pos hb, Option.some.injEq] at h
      rw [h, if_pos hq, List.find?_cons_of_pos hf]
    · rw [List.find?_cons_of_neg hb] at h
      rw [if_neg fun hqb => hb (himp b hqb), List.find?_cons_of_neg hb, ih h]

theorem find?_updateFirst {p : α → Bool} {f : α → α} {l : List α} {a : α}
    (h : l.find? p = some a) (hf : p (f a) = true) :
    (updateFirst p f l).find? p = some (f a) :=
  find?_updateFirst_of_imp h (List.find?_some h) (fun _ hb => hb) hf

end UpdateFirst

namespace Scene

variable {α : Type}

/-! ## Well-formedness -/

structure WellFormed (s : Scene α) : Prop where
  distinct : s.ids.Nodup
  oneWalkEach : (s.walks.map (·.token)).Nodup
  walkersLive : ∀ w ∈ s.walks, w.token ∈ s.ids
  underway : ∀ w ∈ s.walks, w.index < w.path.length

theorem wellFormed_empty : (empty : Scene α).WellFormed where
  distinct := List.nodup_nil
  oneWalkEach := List.nodup_nil
  walkersLive := by simp [empty]
  underway := by simp [empty]

theorem token?_isSome_iff {s : Scene α} {id : TokenId} : (s.token? id).isSome ↔ id ∈ s.ids := by
  simp [token?, ids, List.find?_isSome]

theorem walk?_eq_none {s : Scene α} {id : TokenId} (h : ∀ w ∈ s.walks, w.token ≠ id) :
    s.walk? id = none := by
  simpa [walk?] using h

/-- Effects have no part in it, and a token may change as long as it keeps its id. -/
theorem WellFormed.congr {s s' : Scene α} (h : s.WellFormed) (hids : s'.ids = s.ids)
    (hwalks : s'.walks = s.walks) : s'.WellFormed where
  distinct := hids ▸ h.distinct
  oneWalkEach := hwalks ▸ h.oneWalkEach
  walkersLive := by rw [hids, hwalks]; exact h.walkersLive
  underway := by rw [hwalks]; exact h.underway

theorem WellFormed.addToken {s : Scene α} (h : s.WellFormed) {t : Token α} (ht : t.id ∉ s.ids) :
    ({ s with tokens := s.tokens ++ [t] } : Scene α).WellFormed where
  distinct := by
    have hids : ({ s with tokens := s.tokens ++ [t] } : Scene α).ids = s.ids ++ [t.id] := by
      simp [ids]
    rw [hids, List.nodup_append]
    refine ⟨h.distinct, by simp, fun a ha b hb => ?_⟩
    rw [List.mem_singleton.mp hb]
    rintro rfl
    exact ht ha
  oneWalkEach := h.oneWalkEach
  walkersLive w hw := by
    have hlive := h.walkersLive w hw
    simp only [ids, List.map_append, List.mem_append] at hlive ⊢
    exact .inl hlive
  underway := h.underway

theorem nodup_setWalk {s : Scene α} (h : (s.walks.map (·.token)).Nodup) (w : Walk α) :
    ((s.setWalk w).walks.map (·.token)).Nodup := by
  simp only [setWalk, List.map_append, List.map_cons, List.map_nil]
  rw [List.nodup_append]
  refine ⟨h.sublist (List.filter_sublist.map _), by simp, fun a ha b hb => ?_⟩
  obtain ⟨v, hv, rfl⟩ := List.mem_map.mp ha
  rw [List.mem_singleton.mp hb]
  simpa using (List.mem_filter.mp hv).2

theorem WellFormed.setWalk {s : Scene α} (h : s.WellFormed) {w : Walk α} (hlive : w.token ∈ s.ids)
    (hunderway : w.index < w.path.length) : (s.setWalk w).WellFormed where
  distinct := h.distinct
  oneWalkEach := nodup_setWalk h.oneWalkEach w
  walkersLive v hv := by
    rcases List.mem_append.mp hv with hv | hv
    · exact h.walkersLive v ((List.mem_filter.mp hv).1)
    · rw [List.mem_singleton.mp hv]
      exact hlive
  underway v hv := by
    rcases List.mem_append.mp hv with hv | hv
    · exact h.underway v ((List.mem_filter.mp hv).1)
    · rw [List.mem_singleton.mp hv]
      exact hunderway

theorem ids_remove (s : Scene α) (id : TokenId) : (s.remove id).ids = s.ids.erase id := by
  have herase : (s.tokens.eraseP (·.id == id)).map (·.id) = s.ids.erase id := by
    rw [ids, List.erase_eq_eraseP', List.eraseP_map]
    rfl
  rw [remove]
  split
  · exact herase
  · rename_i hdead
    rw [token?_isSome_iff] at hdead
    rw [List.erase_of_not_mem hdead]

theorem remove_sublist (s : Scene α) (id : TokenId) :
    (s.remove id).tokens.Sublist s.tokens ∧ (s.remove id).walks.Sublist s.walks := by
  rw [remove]
  split
  · exact ⟨List.eraseP_sublist, List.filter_sublist⟩
  · exact ⟨List.Sublist.refl _, List.Sublist.refl _⟩

theorem effects_remove (s : Scene α) (id : TokenId) : (s.remove id).effects = s.effects := by
  rw [remove]
  split
  · rfl
  · rfl

/-- Without two tokens of one id, the first token with an id is the only one. -/
theorem eraseP_eq_filter {tokens : List (Token α)} (h : (tokens.map (·.id)).Nodup) (id : TokenId) :
    tokens.eraseP (·.id == id) = tokens.filter (·.id != id) := by
  induction tokens with
  | nil => rfl
  | cons t rest ih =>
    obtain ⟨hnot, hrest⟩ := List.nodup_cons.mp h
    by_cases ht : t.id = id
    · have hall : ∀ t' ∈ rest, (t'.id != id) = true := fun t' ht' => by
        have hne : t'.id ≠ id := fun he =>
          hnot (List.mem_map.mpr ⟨t', ht', he.trans ht.symm⟩)
        simpa using hne
      rw [List.eraseP_cons_of_pos (by simpa using ht), List.filter_cons_of_neg (by simpa using ht),
        List.filter_eq_self.mpr hall]
    · rw [List.eraseP_cons_of_neg (by simpa using ht), List.filter_cons_of_pos (by simpa using ht),
        ih hrest]

theorem WellFormed.tokens_remove {s : Scene α} (h : s.WellFormed) (id : TokenId) :
    (s.remove id).tokens = s.tokens.filter (·.id != id) := by
  rw [Scene.remove]
  split
  · exact eraseP_eq_filter h.distinct id
  · rename_i hnone
    refine (List.filter_eq_self.mpr fun t ht => ?_).symm
    have hne : t.id ≠ id := fun he =>
      hnone (token?_isSome_iff.mpr (he ▸ List.mem_map_of_mem ht))
    simpa using hne

theorem WellFormed.walks_remove {s : Scene α} (h : s.WellFormed) (id : TokenId) :
    (s.remove id).walks = s.walks.filter (·.token != id) := by
  rw [Scene.remove]
  split
  · rfl
  · rename_i hnone
    refine (List.filter_eq_self.mpr fun w hw => ?_).symm
    have hne : w.token ≠ id := fun he =>
      hnone (token?_isSome_iff.mpr (he ▸ h.walkersLive w hw))
    simpa using hne

theorem WellFormed.remove {s : Scene α} (h : s.WellFormed) (id : TokenId) :
    (s.remove id).WellFormed where
  distinct := by
    rw [ids, h.tokens_remove id]
    exact h.distinct.sublist (List.filter_sublist.map _)
  oneWalkEach := by
    rw [h.walks_remove id]
    exact h.oneWalkEach.sublist (List.filter_sublist.map _)
  walkersLive w hw := by
    rw [h.walks_remove id] at hw
    obtain ⟨hw, hne⟩ := List.mem_filter.mp hw
    obtain ⟨t, ht, hid⟩ := List.mem_map.mp (h.walkersLive w hw)
    rw [ids, h.tokens_remove id]
    exact List.mem_map.mpr ⟨t, List.mem_filter.mpr ⟨ht, hid ▸ hne⟩, hid⟩
  underway w hw := by
    rw [h.walks_remove id] at hw
    exact h.underway w ((List.mem_filter.mp hw).1)

theorem wellFormed_clearTokens (s : Scene α) : s.clearTokens.WellFormed where
  distinct := List.nodup_nil
  oneWalkEach := List.nodup_nil
  walkersLive := by simp [clearTokens]
  underway := by simp [clearTokens]

/-! ## Where tokens come to rest -/

/-- The end of the token's walk, or the place where it stands. -/
def restingPlace (walks : List (Walk α)) (t : Token α) : Option (Point α) :=
  match walks.find? (·.token == t.id) with
  | some w => w.path.getLast?
  | none => some t.position

def restingIn (walks : List (Walk α)) (tokens : List (Token α)) :
    List (TokenId × Option (Point α)) :=
  tokens.map fun t => (t.id, restingPlace walks t)

def restingPlaces (s : Scene α) : List (TokenId × Option (Point α)) := restingIn s.walks s.tokens

/-- A new place for one token among the places of all. -/
def sentTo {β : Type} (id : TokenId) (place : β) (places : List (TokenId × β)) :
    List (TokenId × β) :=
  places.map fun p => if p.1 = id then (id, place) else p

theorem sentTo_sentTo {β : Type} (id : TokenId) (a b : β) (places : List (TokenId × β)) :
    sentTo id a (sentTo id b places) = sentTo id a places := by
  simp only [sentTo, List.map_map]
  refine List.map_congr_left fun p _ => ?_
  by_cases h : p.1 = id <;> simp [h]

theorem restingIn_cons (w : Walk α) (walks : List (Walk α)) (tokens : List (Token α)) :
    restingIn (w :: walks) tokens = sentTo w.token w.path.getLast? (restingIn walks tokens) := by
  simp only [restingIn, sentTo, List.map_map]
  refine List.map_congr_left fun t _ => ?_
  by_cases h : t.id = w.token
  · simp [restingPlace, h]
  · have hne : ¬ w.token = t.id := fun he => h he.symm
    simp [restingPlace, h, hne]

theorem restingPlaces_fst (s : Scene α) : s.restingPlaces.map (·.1) = s.ids := by
  simp [restingPlaces, restingIn, ids]

theorem restingPlaces_addToken {s : Scene α} (h : s.WellFormed) {t : Token α} (ht : t.id ∉ s.ids) :
    ({ s with tokens := s.tokens ++ [t] } : Scene α).restingPlaces =
      s.restingPlaces ++ [(t.id, some t.position)] := by
  have hnone : s.walks.find? (·.token == t.id) = none := by
    refine walk?_eq_none fun w hw he => ht ?_
    exact he ▸ h.walkersLive w hw
  simp [restingPlaces, restingIn, restingPlace, hnone]

theorem find?_filter_self (walks : List (Walk α)) (id : TokenId) :
    (walks.filter (·.token != id)).find? (·.token == id) = none := by
  rw [List.find?_eq_none]
  intro w hw
  simpa using (List.mem_filter.mp hw).2

theorem find?_filter_of_ne (walks : List (Walk α)) {id other : TokenId} (h : other ≠ id) :
    (walks.filter (·.token != id)).find? (·.token == other) =
      walks.find? (·.token == other) := by
  induction walks with
  | nil => rfl
  | cons w rest ih =>
    by_cases hw : w.token = id
    · have hother : ¬ w.token = other := fun he => h (he.symm.trans hw)
      rw [List.filter_cons_of_neg (by simpa using hw),
        List.find?_cons_of_neg (by simpa using hother), ih]
    · rw [List.filter_cons_of_pos (by simpa using hw), List.find?_cons, List.find?_cons, ih]

theorem restingPlaces_setWalk (s : Scene α) (w : Walk α) :
    (s.setWalk w).restingPlaces = sentTo w.token w.path.getLast? s.restingPlaces := by
  simp only [restingPlaces, restingIn, sentTo, setWalk, List.map_map]
  refine List.map_congr_left fun t _ => ?_
  by_cases h : t.id = w.token
  · have hfind : (s.walks.filter (·.token != w.token) ++ [w]).find? (·.token == t.id) = some w := by
      rw [List.find?_append, h, find?_filter_self]
      simp
    simp only [Function.comp_apply, restingPlace, hfind]
    rw [if_pos h, h]
  · have hne : ¬ w.token = t.id := fun he => h he.symm
    have hfind : (s.walks.filter (·.token != w.token) ++ [w]).find? (·.token == t.id) =
        s.walks.find? (·.token == t.id) := by
      rw [List.find?_append, find?_filter_of_ne s.walks h,
        List.find?_cons_of_neg (by simpa using hne)]
      simp
    simp only [Function.comp_apply, restingPlace, hfind, if_neg h]

theorem restingPlaces_remove {s : Scene α} (h : s.WellFormed) (id : TokenId) :
    (s.remove id).restingPlaces = s.restingPlaces.filter (·.1 != id) := by
  rw [restingPlaces, h.walks_remove id, h.tokens_remove id]
  simp only [restingPlaces, restingIn, List.filter_map]
  refine List.map_congr_left fun t ht => ?_
  have hne : t.id ≠ id := by simpa using (List.mem_filter.mp ht).2
  rw [restingPlace, restingPlace, find?_filter_of_ne s.walks hne]

/-- A change of tokens that leaves ids and places alone. -/
theorem restingPlaces_updateFirst {s : Scene α} {p : Token α → Bool} {f : Token α → Token α}
    (hid : ∀ t, (f t).id = t.id) (hplace : ∀ t, (f t).position = t.position) :
    ({ s with tokens := updateFirst p f s.tokens } : Scene α).restingPlaces = s.restingPlaces :=
  map_updateFirst (fun t => by simp only [restingPlace, hid, hplace]) s.tokens

end Scene

/-! ## The clock -/

variable {α : Type} [Quantity α]

theorem Walk.passed_le (epsilon budget : α) (position : Point α) (path : List (Point α)) :
    (Walk.along epsilon budget position path).1 ≤ path.length := by
  induction path generalizing budget position with
  | nil => simp [Walk.along]
  | cons target rest ih =>
    rw [Walk.along]
    split
    · exact Nat.succ_le_succ (ih _ _)
    · dsimp only
      split
      · simp
      · simp

/-- Who passes all waypoints stands on the last one. -/
theorem Walk.along_of_all_passed {epsilon budget : α} {position : Point α} {path : List (Point α)}
    (h : (Walk.along epsilon budget position path).1 = path.length) :
    (Walk.along epsilon budget position path).2 = path.getLast?.getD position := by
  induction path generalizing budget position with
  | nil => rfl
  | cons target rest ih =>
    rw [Walk.along] at h ⊢
    split at h
    · rename_i hreached
      rw [if_pos hreached]
      rw [ih (Nat.succ.inj h), List.getLast?_cons, Option.getD_some]
    · rename_i hshort
      rw [if_neg hshort]
      dsimp only at h ⊢
      split at h
      · rename_i hnear
        obtain rfl : rest = [] := List.length_eq_zero_iff.mp (Nat.succ.inj h).symm
        rw [if_pos hnear]
        rfl
      · cases h

/-- A walk that is finished has led its token to the end of the path. -/
theorem Walk.advance_of_finished {epsilon time : α} {w : Walk α} {position : Point α}
    (hunderway : w.index < w.path.length)
    (h : (w.advance epsilon time position).1.isFinished = true) :
    some (w.advance epsilon time position).2 = w.path.getLast? := by
  have hle := Walk.passed_le epsilon (orZero w.speed * time) position (w.path.drop w.index)
  have h : w.path.length ≤ w.index +
      (Walk.along epsilon (orZero w.speed * time) position (w.path.drop w.index)).1 :=
    of_decide_eq_true h
  rw [List.length_drop] at hle
  have hall : (Walk.along epsilon (orZero w.speed * time) position (w.path.drop w.index)).1 =
      (w.path.drop w.index).length := by
    rw [List.length_drop]
    omega
  have hlast := Walk.along_of_all_passed hall
  have hdrop : (w.path.drop w.index).getLast? = w.path.getLast? := by
    rw [List.getLast?_drop, if_neg (by omega)]
  rw [hdrop] at hlast
  simp only [Walk.advance, hlast]
  cases hpath : w.path.getLast? with
  | none =>
    rw [List.getLast?_eq_none_iff.mp hpath] at hunderway
    simp at hunderway
  | some p => rfl

namespace Clock

variable (c : Clock α) (time : α)

/-- The clock changes the position of a token and nothing else about it. -/
theorem advanceWalks_map {β : Type} {f : Token α → β} (hf : ∀ t position, f { t with position } = f t)
    (tokens : List (Token α)) (walks : List (Walk α)) :
    (c.advanceWalks time tokens walks).1.map f = tokens.map f := by
  induction walks generalizing tokens with
  | nil => rfl
  | cons w rest ih =>
    rw [advanceWalks]
    split
    · exact ih tokens
    · dsimp only
      split
      all_goals
        rw [ih]
        exact map_updateFirst (fun t => hf t _) tokens

theorem advanceWalks_walks (tokens : List (Token α)) (walks : List (Walk α)) :
    ((c.advanceWalks time tokens walks).2.1.map (·.token)).Sublist (walks.map (·.token)) := by
  induction walks generalizing tokens with
  | nil => exact List.Sublist.refl _
  | cons w rest ih =>
    rw [advanceWalks]
    split
    · exact (ih tokens).cons _
    · dsimp only
      split
      · exact (ih _).cons _
      · exact (ih _).cons_cons _

theorem advanceWalks_underway (tokens : List (Token α)) (walks : List (Walk α)) :
    ∀ w ∈ (c.advanceWalks time tokens walks).2.1, w.index < w.path.length := by
  induction walks generalizing tokens with
  | nil => simp [advanceWalks]
  | cons w rest ih =>
    rw [advanceWalks]
    split
    · exact ih tokens
    · dsimp only
      split
      · exact ih _
      · rename_i hgoes
        intro v hv
        rcases List.mem_cons.mp hv with rfl | hv
        · simpa [Walk.isFinished] using hgoes
        · exact ih _ v hv

/-- The walks that are left end where they ended, and those that are over have led their tokens to
the end. -/
theorem restingIn_advanceWalks {tokens : List (Token α)} {walks : List (Walk α)}
    (hdistinct : (tokens.map (·.id)).Nodup) (hone : (walks.map (·.token)).Nodup)
    (hlive : ∀ w ∈ walks, w.token ∈ tokens.map (·.id))
    (hunderway : ∀ w ∈ walks, w.index < w.path.length) :
    Scene.restingIn (c.advanceWalks time tokens walks).2.1 (c.advanceWalks time tokens walks).1 =
      Scene.restingIn walks tokens := by
  induction walks generalizing tokens with
  | nil => rfl
  | cons w rest ih =>
    obtain ⟨hnot, hone⟩ := List.nodup_cons.mp hone
    rw [advanceWalks]
    cases hfind : tokens.find? (·.id == w.token) with
    | none =>
      obtain ⟨t, ht, hid⟩ := List.mem_map.mp (hlive w List.mem_cons_self)
      have hne := List.find?_eq_none.mp hfind t ht
      simp [hid] at hne
    | some token =>
      dsimp only
      generalize hadv : w.advance c.epsilon time token.position = adv
      generalize hmoved :
        updateFirst (·.id == w.token) ({ · with position := adv.2 }) tokens = moved
      have hids : moved.map (·.id) = tokens.map (·.id) := by
        rw [← hmoved]
        exact map_updateFirst (by intro t; rfl) tokens
      have hrest := ih (hids ▸ hdistinct) hone
        (fun v hv => hids ▸ hlive v (List.mem_cons_of_mem _ hv))
        (fun v hv => hunderway v (List.mem_cons_of_mem _ hv))
      -- in the walks that are still to come the token has no part
      have hplaces : Scene.restingIn rest moved =
          Scene.sentTo w.token (some adv.2) (Scene.restingIn rest tokens) := by
        rw [← hmoved, updateFirst_eq_map w.token _ hdistinct]
        simp only [Scene.restingIn, Scene.sentTo, List.map_map]
        refine List.map_congr_left fun t _ => ?_
        have hnone : rest.find? (·.token == w.token) = none := by
          rw [List.find?_eq_none]
          intro v hv hvw
          exact hnot (List.mem_map.mpr ⟨v, hv, beq_iff_eq.mp hvw⟩)
        by_cases ht : t.id = w.token
        · simp [ht, Scene.restingPlace, hnone]
        · simp [ht]
      rw [Scene.restingIn_cons]
      split
      · rename_i hfinished
        have hend : some adv.2 = w.path.getLast? := by
          rw [← hadv] at hfinished ⊢
          exact Walk.advance_of_finished (hunderway w List.mem_cons_self) hfinished
        rw [hrest, hplaces, hend]
      · have htoken : adv.1.token = w.token := hadv ▸ rfl
        have hpath : adv.1.path = w.path := hadv ▸ rfl
        rw [Scene.restingIn_cons, hrest, hplaces, htoken, hpath, Scene.sentTo_sentTo]

variable {s : Scene α} (seconds : α)

theorem tick_ids : (c.tick s seconds).1.ids = s.ids :=
  c.advanceWalks_map _ (by intro t position; rfl) s.tokens s.walks

end Clock

theorem Scene.WellFormed.tick {s : Scene α} (h : s.WellFormed) (c : Clock α) (seconds : α) :
    (c.tick s seconds).1.WellFormed where
  distinct := (c.tick_ids seconds).symm ▸ h.distinct
  oneWalkEach := h.oneWalkEach.sublist (c.advanceWalks_walks _ s.tokens s.walks)
  walkersLive w hw := by
    rw [c.tick_ids seconds]
    have hmem := (c.advanceWalks_walks (c.elapsed seconds) s.tokens s.walks).subset
      (List.mem_map_of_mem hw)
    obtain ⟨v, hv, hvw⟩ := List.mem_map.mp hmem
    rw [← hvw]
    exact h.walkersLive v hv
  underway := c.advanceWalks_underway _ s.tokens s.walks

theorem Scene.restingPlaces_tick {s : Scene α} (h : s.WellFormed) (c : Clock α) (seconds : α) :
    (c.tick s seconds).1.restingPlaces = s.restingPlaces :=
  c.restingIn_advanceWalks _ h.distinct h.oneWalkEach h.walkersLive h.underway

end Tabletop
