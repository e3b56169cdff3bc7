import Tabletop.Proofs.Decimal.Operations
import Tabletop.Proofs.Ticks

/-!
# Walks in exact numbers

A walk is a row of straight legs. Does a token keep to them? With exact numbers in the place of
floating point ones this is a question about the clock alone.

* `Decimal.exact` and `Scene.map` read a scene in exact numbers.
* `Point.OnSegment` is the straight way between two points, and `Point.wayThrough` the length of the
  way from waypoint to waypoint.
* `Walk.along_onSegment_iff`: a token keeps to its leg exactly if its budget lasts for the waypoints
  that it passes, or it stands at the beginning of the leg. A waypoint within the arrival distance is
  passed even if the budget does not last so far, and what it lacks takes the token back behind the
  waypoint.
* `Clock.tick_onSegment_iff` says so of a whole scene, and `World.tick_leaves_path` is such a step
  back.
-/

namespace Tabletop

open Quantity

/-! ## Exact numbers -/

noncomputable instance : Quantity ℝ where
  atMost a b := decide (a ≤ b)
  below a b := decide (a < b)
  size := abs
  isFinite _ := true
  hypotenuse a b := √(a * a + b * b)

/-- The number that a floating point number stands for; zero if it stands for none. -/
noncomputable def Decimal.exact (x : Float) : ℝ := ((value? x.toModel.unpack).getD 0 : ℚ)

/-- A clock with any settings. -/
noncomputable def Clock.exact (speedScale arrivalEpsilon : ℝ) : Clock ℝ where
  scale := orZero speedScale
  epsilon := size arrivalEpsilon

section Map

variable {α β : Type} (f : α → β)

def Point.map (p : Point α) : Point β := ⟨f p.col, f p.row⟩

def Token.map (t : Token α) : Token β := { t with position := t.position.map f }

def Walk.map (w : Walk α) : Walk β := ⟨w.token, w.path.map (Point.map f), w.index, f w.speed⟩

def Effect.map (e : Effect α) : Effect β :=
  { e with speed := f e.speed, duration := f e.duration, age := f e.age }

def Scene.map (s : Scene α) : Scene β :=
  ⟨s.tokens.map (Token.map f), s.walks.map (Walk.map f), s.effects.map (Effect.map f)⟩

theorem Scene.ids_map (s : Scene α) : (s.map f).ids = s.ids := by
  rw [ids, Scene.map, List.map_map]
  rfl

theorem Scene.WellFormed.map {s : Scene α} (h : s.WellFormed) : (s.map f).WellFormed where
  distinct := (s.ids_map f).symm ▸ h.distinct
  oneWalkEach := by
    rw [Scene.map, List.map_map]
    exact h.oneWalkEach
  walkersLive w hw := by
    obtain ⟨v, hv, rfl⟩ := List.mem_map.mp hw
    rw [s.ids_map f]
    exact h.walkersLive v hv
  underway w hw := by
    obtain ⟨v, hv, rfl⟩ := List.mem_map.mp hw
    rw [Walk.map, List.length_map]
    exact h.underway v hv

end Map

theorem atMost_iff {a b : ℝ} : atMost a b = true ↔ a ≤ b := decide_eq_true_iff

theorem below_iff {a b : ℝ} : below a b = true ↔ a < b := decide_eq_true_iff

theorem orZero_nonneg (a : ℝ) : 0 ≤ orZero a := by
  rw [orZero]
  split
  · rename_i h
    exact (below_iff.mp h).le
  · exact le_rfl

theorem orZero_of_pos {a : ℝ} (h : 0 < a) : orZero a = a := by
  rw [orZero, if_pos (below_iff.mpr h)]

theorem Clock.elapsed_nonneg (speedScale arrivalEpsilon seconds : ℝ) :
    0 ≤ (Clock.exact speedScale arrivalEpsilon).elapsed seconds :=
  mul_nonneg (orZero_nonneg seconds) (orZero_nonneg speedScale)

/-! ## Segments -/

namespace Point

variable {p q : Point ℝ} {fraction : ℝ}

theorem distance_nonneg (p q : Point ℝ) : 0 ≤ p.distance q := Real.sqrt_nonneg _

theorem toward_col (p q : Point ℝ) (fraction : ℝ) :
    (p.toward q fraction).col = p.col + (q.col - p.col) * fraction := rfl

theorem toward_row (p q : Point ℝ) (fraction : ℝ) :
    (p.toward q fraction).row = p.row + (q.row - p.row) * fraction := rfl

theorem toward_zero (p q : Point ℝ) : p.toward q 0 = p := by
  rw [toward]
  congr 1
  · exact (congrArg (p.col + ·) (mul_zero _)).trans (add_zero _)
  · exact (congrArg (p.row + ·) (mul_zero _)).trans (add_zero _)

/-- Different points have a distance. -/
theorem toward_injective (h : p.distance q ≠ 0) {f g : ℝ} (heq : p.toward q f = p.toward q g) :
    f = g := by
  have hcol := congrArg Point.col heq
  have hrow := congrArg Point.row heq
  rw [toward_col, toward_col] at hcol
  rw [toward_row, toward_row] at hrow
  by_contra hne
  have hcols : q.col - p.col = 0 := by
    have hzero : (q.col - p.col) * (f - g) = 0 := by linarith
    exact (mul_eq_zero.mp hzero).resolve_right (sub_ne_zero.mpr hne)
  have hrows : q.row - p.row = 0 := by
    have hzero : (q.row - p.row) * (f - g) = 0 := by linarith
    exact (mul_eq_zero.mp hzero).resolve_right (sub_ne_zero.mpr hne)
  refine h ?_
  change √((q.col - p.col) * (q.col - p.col) + (q.row - p.row) * (q.row - p.row)) = 0
  rw [hcols, hrows, mul_zero, add_zero, Real.sqrt_zero]

/-- A place on the straight way from one point to another. -/
def OnSegment (p q place : Point ℝ) : Prop :=
  ∃ fraction, 0 ≤ fraction ∧ fraction ≤ 1 ∧ place = p.toward q fraction

theorem onSegment_start (p q : Point ℝ) : OnSegment p q p :=
  ⟨0, le_rfl, zero_le_one, (toward_zero p q).symm⟩

theorem onSegment_toward_iff (h : p.distance q ≠ 0) :
    OnSegment p q (p.toward q fraction) ↔ 0 ≤ fraction ∧ fraction ≤ 1 := by
  constructor
  · rintro ⟨g, hpos, hone, heq⟩
    rw [toward_injective h heq]
    exact ⟨hpos, hone⟩
  · rintro ⟨hpos, hone⟩
    exact ⟨fraction, hpos, hone, rfl⟩

/-- The length of the way from a point through others, one after the other. -/
noncomputable def wayThrough (p : Point ℝ) : List (Point ℝ) → ℝ
  | [] => 0
  | q :: rest => p.distance q + wayThrough q rest

end Point

open Point

/-! ## Legs -/

namespace Walk

/-- The waypoints between the places of two walks on one path. -/
def passed {α : Type} (w w' : Walk α) : List (Point α) :=
  (w.path.drop w.index).take (w'.index - w.index)

/-- Where a leg begins that a token has come to through some waypoints. -/
def legStart {α : Type} (position : Point α) (passed : List (Point α)) : Point α :=
  passed.getLast?.getD position

theorem legStart_cons {α : Type} (position q : Point α) (rest : List (Point α)) :
    legStart position (q :: rest) = legStart q rest := by
  rw [legStart, legStart, List.getLast?_cons, Option.getD_some]

variable {epsilon budget : ℝ} {position : Point ℝ}

/-- Both tests of a waypoint have failed: the budget is spent on the way to it. -/
theorem along_of_far {target : Point ℝ} (rest : List (Point ℝ))
    (h : ¬ (position.distance target ≤ budget ∨ position.distance target < epsilon)) :
    let place := position.toward target (budget / position.distance target)
    along epsilon budget position (target :: rest) =
      if place.distance target < epsilon then (1, target) else (0, place) := by
  have hboth : (atMost (position.distance target) budget ||
      below (position.distance target) epsilon) = false := by
    rw [← Bool.not_eq_true, Bool.or_eq_true, atMost_iff, below_iff]
    exact h
  rw [along]
  simp only [hboth, Bool.false_eq_true, if_false, below_iff]

theorem along_of_near {target : Point ℝ} (rest : List (Point ℝ))
    (h : position.distance target ≤ budget ∨ position.distance target < epsilon) :
    along epsilon budget position (target :: rest) =
      ((along epsilon (budget - position.distance target) target rest).1 + 1,
        (along epsilon (budget - position.distance target) target rest).2) := by
  have hone : (atMost (position.distance target) budget ||
      below (position.distance target) epsilon) = true := by
    rw [Bool.or_eq_true, atMost_iff, below_iff]
    exact h
  rw [along]
  simp only [hone, if_true]

/-- On the last leg the token keeps to the straight way exactly if the budget is not overspent. -/
theorem toward_onSegment_iff {target : Point ℝ} (hbudget : 0 ≤ budget ∨ 0 < epsilon)
    (h : ¬ (position.distance target ≤ budget ∨ position.distance target < epsilon)) :
    OnSegment position target (position.toward target (budget / position.distance target)) ↔
      position.toward target (budget / position.distance target) = position ∨ 0 ≤ budget := by
  obtain ⟨hbeyond, hfar⟩ := not_or.mp h
  have hnonneg := distance_nonneg position target
  have hpos : 0 < position.distance target := by
    rcases hbudget with hbudget | hepsilon
    · exact hbudget.trans_lt (not_le.mp hbeyond)
    · exact hepsilon.trans_le (not_lt.mp hfar)
  have hback : position.toward target (budget / position.distance target) = position →
      budget = 0 := fun heq => by
    have hfraction := toward_injective hpos.ne' (heq.trans (toward_zero position target).symm)
    exact (div_eq_zero_iff.mp hfraction).resolve_right hpos.ne'
  have hone : budget / position.distance target ≤ 1 :=
    (div_le_one hpos).mpr (not_le.mp hbeyond).le
  have hsign : 0 ≤ budget / position.distance target ↔ 0 ≤ budget := by
    rw [le_div_iff₀ hpos, zero_mul]
  rw [onSegment_toward_iff hpos.ne', hsign]
  constructor
  · rintro ⟨hbudget, -⟩
    exact .inr hbudget
  · rintro (heq | hbudget)
    · exact ⟨(hback heq).ge, hone⟩
    · exact ⟨hbudget, hone⟩

/-- Of the leg to the next waypoint: its token is on it exactly if the budget lasts for the waypoints
that are passed, or the token stands where the leg begins. -/
theorem along_onSegment_iff (hbudget : 0 ≤ budget ∨ 0 < epsilon) {points : List (Point ℝ)}
    {target : Point ℝ}
    (htarget : points[(along epsilon budget position points).1]? = some target) :
    let passed := points.take (along epsilon budget position points).1
    let place := (along epsilon budget position points).2
    OnSegment (legStart position passed) target place ↔
      place = legStart position passed ∨ wayThrough position passed ≤ budget := by
  induction points generalizing position budget with
  | nil => cases htarget
  | cons q rest ih =>
    by_cases hnear : position.distance q ≤ budget ∨ position.distance q < epsilon
    · -- What is left of the budget is negative only after a waypoint within the arrival distance.
      have hleft : 0 ≤ budget - position.distance q ∨ 0 < epsilon := by
        rcases hnear with hreached | hclose
        · exact .inl (sub_nonneg.mpr hreached)
        · exact .inr ((distance_nonneg position q).trans_lt hclose)
      rw [along_of_near rest hnear] at htarget ⊢
      rw [List.getElem?_cons_succ] at htarget
      have hrest := ih hleft htarget
      dsimp only at hrest ⊢
      rw [List.take_succ_cons, legStart_cons, wayThrough, hrest, le_sub_iff_add_le']
    · have hfar := along_of_far rest hnear
      dsimp only at hfar
      split at hfar
      · rw [hfar]
        exact iff_of_true (onSegment_start q target) (.inl rfl)
      · rw [hfar] at htarget ⊢
        obtain rfl : q = target := Option.some.inj htarget
        exact toward_onSegment_iff hbudget hnear

end Walk

/-! ## Ticks -/

namespace Clock

section Tick

variable {α : Type} [Quantity α] {s : Scene α} (h : s.WellFormed) (c : Clock α) (seconds : α)

include h in
/-- A token on a walk is where the walk has led it. -/
theorem mem_tick_tokens {w : Walk α} (hw : w ∈ s.walks) {t : Token α} (ht : t ∈ s.tokens)
    (hid : t.id = w.token) :
    { t with position := (w.advance c.epsilon (c.elapsed seconds) t.position).2 } ∈
      (c.tick s seconds).1.tokens := by
  have htokens : (c.tick s seconds).1.tokens =
      s.tokens.map (c.walked (c.elapsed seconds) s.walks) :=
    congrArg (·.1) (c.advanceWalks_eq (c.elapsed seconds) h.distinct h.oneWalkEach)
  have hwalk : s.walks.find? (·.token == t.id) = some w := hid ▸ find?_of_nodup h.oneWalkEach hw
  have hwalked : c.walked (c.elapsed seconds) s.walks t =
      { t with position := (w.advance c.epsilon (c.elapsed seconds) t.position).2 } := by
    rw [walked, hwalk]
  rw [htokens, ← hwalked]
  exact List.mem_map_of_mem ht

include h in
/-- The walks after a tick are those that their tokens have gone on with and not to the end. -/
theorem mem_tick_walks {w' : Walk α} :
    w' ∈ (c.tick s seconds).1.walks ↔
      ∃ w ∈ s.walks, ∃ t ∈ s.tokens, t.id = w.token ∧
        w' = (w.advance c.epsilon (c.elapsed seconds) t.position).1 ∧
          w'.index < w'.path.length := by
  have hwalks : (c.tick s seconds).1.walks =
      (s.walks.filterMap (c.continued? (c.elapsed seconds) s.tokens)).filter (!·.isFinished) :=
    congrArg (·.2.1) (c.advanceWalks_eq (c.elapsed seconds) h.distinct h.oneWalkEach)
  have hgoes : (!w'.isFinished) = true ↔ w'.index < w'.path.length := by simp [Walk.isFinished]
  rw [hwalks, List.mem_filter, List.mem_filterMap, hgoes]
  constructor
  · rintro ⟨⟨w, hw, hcontinued⟩, hahead⟩
    obtain ⟨t, hfind, rfl⟩ := Option.map_eq_some_iff.mp hcontinued
    have hid : t.id = w.token := by simpa using List.find?_some hfind
    exact ⟨w, hw, t, List.mem_of_find?_eq_some hfind, hid, rfl, hahead⟩
  · rintro ⟨w, hw, t, ht, hid, rfl, hahead⟩
    have hfind : s.tokens.find? (·.id == w.token) = some t := hid ▸ find?_of_nodup h.distinct ht
    exact ⟨⟨w, hw, by rw [continued?, hfind, Option.map_some]⟩, hahead⟩

end Tick

end Clock

/-! ## There and back -/

theorem Decimal.HasValue.exact_eq {x : Float} {v : ℚ} (h : HasValue x v) : exact x = v := by
  rw [exact, h, Option.getD_some]

theorem Decimal.exact_ofNat {n : ℕ} (h : n < 2 ^ 53) : exact (Float.ofNat n) = n := by
  rw [(hasValue_ofNat h).exact_eq, Rat.cast_natCast]

/-- `2 ^ -11` in decimals. -/
theorem Decimal.exact_small : exact 0.00048828125 = 1 / 2 ^ 11 := by
  have hparts : Binary.ofFloat? 0.00048828125 = some ⟨false, 2 ^ 52, -63⟩ := by decide +kernel
  have hvalue : HasValue 0.00048828125 (1 / 2 ^ 11) := by
    rw [HasValue, ← map_value_ofFloat?, hparts, Option.map_some]
    norm_num [Binary.value]
  rw [hvalue.exact_eq]
  norm_num

theorem Point.distance_in_row (a b row : ℝ) : distance ⟨a, row⟩ ⟨b, row⟩ = |b - a| := by
  change √((b - a) * (b - a) + (row - row) * (row - row)) = _
  rw [sub_self, mul_zero, add_zero, Real.sqrt_mul_self_eq_abs]

theorem Walk.advance_eq {w : Walk ℝ} {epsilon time budget : ℝ} {position : Point ℝ}
    {r : ℕ × Point ℝ} (hbudget : orZero w.speed * time = budget)
    (hlegs : along epsilon budget position (w.path.drop w.index) = r) :
    w.advance epsilon time position = ({ w with index := w.index + r.1 }, r.2) := by
  rw [advance, hbudget, hlegs]

/-- A waypoint lies half a thousandth of a cell to the left and the next one far to the right. The
first one is passed in any case. -/
theorem Walk.along_turned {budget : ℝ} (h : budget < 4) :
    along (1 / 1000) budget ⟨1 / 2 ^ 11, 0⟩ [⟨0, 0⟩, ⟨5, 0⟩] = (1, ⟨budget - 1 / 2 ^ 11, 0⟩) := by
  have hfirst : distance ⟨1 / 2 ^ 11, 0⟩ ⟨0, 0⟩ = (1 / 2 ^ 11 : ℝ) := by
    rw [distance_in_row]
    norm_num
  have hsecond : distance ⟨0, 0⟩ ⟨5, 0⟩ = (5 : ℝ) := by
    rw [distance_in_row]
    norm_num
  have hplace : toward (⟨0, 0⟩ : Point ℝ) ⟨5, 0⟩ ((budget - 1 / 2 ^ 11) / 5) =
      ⟨budget - 1 / 2 ^ 11, 0⟩ := by
    rw [toward]
    congr 1
    · change 0 + (5 - 0) * ((budget - 1 / 2 ^ 11) / 5) = budget - 1 / 2 ^ 11
      ring
    · change 0 + (0 - 0) * ((budget - 1 / 2 ^ 11) / 5) = (0 : ℝ)
      ring
  have hrest : ¬ distance (⟨budget - 1 / 2 ^ 11, 0⟩ : Point ℝ) ⟨5, 0⟩ < 1 / 1000 := by
    rw [distance_in_row, abs_of_pos (by linarith), not_lt]
    linarith
  rw [along_of_near _ (.inr (by rw [hfirst]; norm_num)), hfirst, along_of_far, hsecond, hplace,
    if_neg hrest]
  rw [hsecond, not_or, not_le, not_lt]
  constructor
  · linarith
  · norm_num

/-- A goblin has just set out to the right when it is sent back to where it began, and on to the right
again from there. -/
theorem World.exists_turned :
    ∃ w : World, Reachable w ∧ ∃ t, (w.scene.map Decimal.exact).tokens = [t] ∧ t.id = ⟨"G", 1⟩ ∧
      t.position = ⟨1 / 2 ^ 11, 0⟩ ∧
      (w.scene.map Decimal.exact).walks = [⟨⟨"G", 1⟩, [⟨0, 0⟩, ⟨5, 0⟩], 0, 4⟩] := by
  let rules : Rules := .ofSettings {} 0
  let march : List Instruction :=
    [.board 9 1, .spriteDef "G" ∅, .place "G" [⟨0, 0⟩], .move "G-1" (.to ⟨8, 0⟩)]
  let again : List Instruction := [.move "G-1" (.waypoints [⟨0, 0⟩, ⟨5, 0⟩])]
  let before := ((World.empty.apply rules march).1.tick (.ofSettings {}) 0.0001220703125).1
  obtain ⟨w, hw⟩ : ∃ w, w = (before.apply rules again).1 := ⟨_, rfl⟩
  have hreach : Reachable w := hw ▸ ((Reachable.empty.apply rules march (by decide +kernel)).tick
    (.ofSettings {}) 0.0001220703125).apply rules again (by decide +kernel)
  have htokens : w.scene.tokens.map (fun t => (t.id, t.position)) =
      [(⟨"G", 1⟩, ⟨0.00048828125, 0⟩)] := hw ▸ by decide +kernel
  have hwalks : w.scene.walks = [⟨⟨"G", 1⟩, [⟨0, 0⟩, ⟨5, 0⟩], 0, 4⟩] := hw ▸ by decide +kernel
  obtain ⟨token, htoken, heq⟩ := List.map_eq_singleton_iff.mp htokens
  obtain ⟨hid, hposition⟩ := Prod.mk.inj heq
  have hzero : Decimal.exact 0 = 0 := (Decimal.exact_ofNat (by norm_num)).trans Nat.cast_zero
  have hfour : Decimal.exact 4 = 4 := (Decimal.exact_ofNat (by norm_num)).trans Nat.cast_ofNat
  have hfive : Decimal.exact 5 = 5 := (Decimal.exact_ofNat (by norm_num)).trans Nat.cast_ofNat
  refine ⟨w, hreach, token.map Decimal.exact, ?_, hid, ?_, ?_⟩
  · rw [Scene.map, htoken, List.map_singleton]
  · change Point.map Decimal.exact token.position = _
    rw [hposition, Point.map, Decimal.exact_small, hzero]
  · rw [Scene.map, hwalks, List.map_singleton]
    simp [Walk.map, Point.map, hzero, hfour, hfive]

/-- After less than a second the goblin has turned, and is to be found by what its budget has left. -/
theorem Clock.tick_turned {s : Scene ℝ} (h : s.WellFormed) {t : Token ℝ} (htokens : s.tokens = [t])
    (hid : t.id = ⟨"G", 1⟩) (hposition : t.position = ⟨1 / 2 ^ 11, 0⟩)
    (hwalks : s.walks = [⟨⟨"G", 1⟩, [⟨0, 0⟩, ⟨5, 0⟩], 0, 4⟩]) {seconds : ℝ} (hpos : 0 < seconds)
    (hless : seconds < 1) :
    let c := Clock.exact 1 (1 / 1000)
    ⟨⟨"G", 1⟩, [⟨0, 0⟩, ⟨5, 0⟩], 1, 4⟩ ∈ (c.tick s seconds).1.walks ∧
      { t with position := ⟨4 * seconds - 1 / 2 ^ 11, 0⟩ } ∈ (c.tick s seconds).1.tokens := by
  intro c
  let walk : Walk ℝ := ⟨⟨"G", 1⟩, [⟨0, 0⟩, ⟨5, 0⟩], 0, 4⟩
  have hbudget : orZero walk.speed * c.elapsed seconds = 4 * seconds := by
    change orZero (4 : ℝ) * (orZero seconds * orZero 1) = _
    rw [orZero_of_pos four_pos, orZero_of_pos hpos, orZero_of_pos one_pos]
    ring
  have hepsilon : c.epsilon = 1 / 1000 := abs_of_pos (by norm_num)
  have hadvance := Walk.advance_eq hbudget
    (hepsilon ▸ hposition ▸ Walk.along_turned (by linarith : 4 * seconds < 4))
  have hwalk : walk ∈ s.walks := hwalks ▸ List.mem_cons_self
  have ht : t ∈ s.tokens := htokens ▸ List.mem_cons_self
  refine ⟨?_, ?_⟩
  · exact (c.mem_tick_walks h seconds).mpr
      ⟨walk, hwalk, t, ht, hid, (congrArg Prod.fst hadvance).symm, Nat.lt_succ_self 1⟩
  · have hmem := c.mem_tick_tokens h seconds hwalk ht hid
    rwa [hadvance] at hmem

/-! ## Keeping to the path -/

namespace Clock

/-- Every walk that is left after a tick has a leg: it begins at the last waypoint that was passed, or
where the token stood, and goes to the waypoint ahead. The token is on it exactly if the way through
the waypoints that were passed is no longer than what it could go, or it stands where the leg begins. -/
theorem tick_onSegment_iff {s : Scene ℝ} (h : s.WellFormed)
    (speedScale arrivalEpsilon seconds : ℝ) :
    let c := Clock.exact speedScale arrivalEpsilon
    ∀ w' ∈ (c.tick s seconds).1.walks, ∃ w ∈ s.walks, ∃ t ∈ s.tokens,
      ∃ t' ∈ (c.tick s seconds).1.tokens, ∃ target,
        w.LedOn w' ∧ t.id = w.token ∧ t'.id = w.token ∧ w'.next? = some target ∧
        (OnSegment (Walk.legStart t.position (w.passed w')) target t'.position ↔
          t'.position = Walk.legStart t.position (w.passed w') ∨
            wayThrough t.position (w.passed w') ≤ orZero w.speed * c.elapsed seconds) := by
  intro c w' hw'
  obtain ⟨w, hw, t, ht, hid, hadvance, hahead⟩ := (c.mem_tick_walks h seconds).mp hw'
  have hbudget : 0 ≤ orZero w.speed * c.elapsed seconds :=
    mul_nonneg (orZero_nonneg _) (elapsed_nonneg speedScale arrivalEpsilon seconds)
  have hpassed : w.passed w' = (w.path.drop w.index).take (Walk.along c.epsilon
      (orZero w.speed * c.elapsed seconds) t.position (w.path.drop w.index)).1 := by
    rw [hadvance, Walk.passed, Walk.advance, Nat.add_sub_cancel_left]
  obtain ⟨target, htarget⟩ : ∃ target, w'.next? = some target :=
    ⟨_, List.getElem?_eq_getElem hahead⟩
  refine ⟨w, hw, t, ht, _, c.mem_tick_tokens h seconds hw ht hid, target, ?_, hid, hid, htarget, ?_⟩
  · rw [hadvance]
    exact w.ledOn_advance c.epsilon (c.elapsed seconds) t.position
  · rw [hpassed]
    refine Walk.along_onSegment_iff (.inl hbudget) ?_
    rw [List.getElem?_drop]
    rw [hadvance] at htarget
    exact htarget

/-- The goblin that has turned is on its way to the right after a quarter of a second. -/
theorem tick_onSegment_iff_turned :
    ∃ w : World, World.Reachable w ∧ ∃ t t' : Token ℝ, ∃ walk walk' : Walk ℝ,
      t ∈ (w.scene.map Decimal.exact).tokens ∧ walk ∈ (w.scene.map Decimal.exact).walks ∧
      walk' ∈ ((Clock.exact 1 (1 / 1000)).tick (w.scene.map Decimal.exact) (1 / 4)).1.walks ∧
      t' ∈ ((Clock.exact 1 (1 / 1000)).tick (w.scene.map Decimal.exact) (1 / 4)).1.tokens ∧
      walk.passed walk' = [⟨0, 0⟩] ∧ OnSegment ⟨0, 0⟩ ⟨5, 0⟩ t'.position := by
  obtain ⟨w, hreach, t₀, htokens, hid₀, hposition, hwalks⟩ := World.exists_turned
  have hscene := hreach.wellFormed.map Decimal.exact
  obtain ⟨hmem, -⟩ := tick_turned hscene htokens hid₀ hposition hwalks
    (by norm_num : (0 : ℝ) < 1 / 4) (by norm_num)
  obtain ⟨walk, hwalk, t, ht, t', ht', target, hled, hid, hid', htarget, hiff⟩ :=
    tick_onSegment_iff hscene 1 (1 / 1000) (1 / 4) _ hmem
  have hwalk₀ := hwalk
  have ht₀ := ht
  rw [hwalks] at hwalk₀
  rw [htokens] at ht₀
  obtain rfl := List.mem_singleton.mp hwalk₀
  obtain rfl := List.mem_singleton.mp ht₀
  obtain rfl : ⟨5, 0⟩ = target := Option.some.inj htarget
  refine ⟨w, hreach, t, t', _, _, ht, hwalk, hmem, ht', rfl, hiff.mpr (.inr ?_)⟩
  change wayThrough t.position [⟨0, 0⟩] ≤ orZero (4 : ℝ) * (orZero (1 / 4) * orZero 1)
  rw [hposition, wayThrough, wayThrough, distance_in_row, orZero_of_pos four_pos,
    orZero_of_pos (by norm_num), orZero_of_pos one_pos]
  norm_num

end Clock

/-- In the first moment the same goblin is taken out of the board, to the left. -/
theorem World.tick_leaves_path :
    ∃ w : World, Reachable w ∧ ∃ seconds : ℝ,
      let s := w.scene.map Decimal.exact
      let c := Clock.exact 1 (1 / 1000)
      ∃ walk ∈ s.walks, ∃ t ∈ s.tokens, ∃ walk' ∈ (c.tick s seconds).1.walks,
        ∃ t' ∈ (c.tick s seconds).1.tokens,
          t.id = walk.token ∧ walk.LedOn walk' ∧ t'.id = walk.token ∧
          Walk.legStart t.position (walk.passed walk') = ⟨0, 0⟩ ∧ walk'.next? = some ⟨5, 0⟩ ∧
          ¬ OnSegment ⟨0, 0⟩ ⟨5, 0⟩ t'.position := by
  obtain ⟨w, hreach, t, htokens, hid, hposition, hwalks⟩ := exists_turned
  obtain ⟨hwalk', ht'⟩ := Clock.tick_turned (hreach.wellFormed.map Decimal.exact) htokens hid
    hposition hwalks (by norm_num : (0 : ℝ) < 1 / 2 ^ 15) (by norm_num)
  refine ⟨w, hreach, 1 / 2 ^ 15, ⟨⟨"G", 1⟩, [⟨0, 0⟩, ⟨5, 0⟩], 0, 4⟩, hwalks ▸ List.mem_cons_self, t,
    htokens ▸ List.mem_cons_self, _, hwalk', _, ht', hid, ⟨rfl, rfl, rfl, Nat.zero_le 1⟩, hid, rfl,
    rfl, ?_⟩
  rintro ⟨fraction, hpos, -, hplace⟩
  have hcol : (4 * (1 / 2 ^ 15) - 1 / 2 ^ 11 : ℝ) = 0 + (5 - 0) * fraction :=
    congrArg Point.col hplace
  norm_num at hcol
  linarith

end Tabletop
