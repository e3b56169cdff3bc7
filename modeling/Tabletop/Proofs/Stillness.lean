import Tabletop.Proofs.Decimal.Special
import Tabletop.Proofs.Roster
import Tabletop.Proofs.Spawning
import Tabletop.Proofs.Ticks

/-!
# Ticks without any time

A tick of zero seconds should change nothing, nor should one of a negative or infinite number of them.
But it still looks at the next waypoint of each walk and at the age of each effect.

* `Clock.tick_eq_self_iff`: a tick that makes nothing older changes nothing exactly if every walk leaves
  its token where it is and no effect has expired.
* `Walk.Rests` is what a walk needs for that, and `Walk.advance_rests_iff` says so.
* `Scene.OnCells` and `Scene.Aging` are what worlds keep that batches and ticks lead to: as long as there
  is no negative zero, adding zeros changes nothing.
* `World.tick_without_time_iff` puts this together, and `World.tick_without_time_moves` is a tick without
  any time that takes a token off its way.
-/

namespace Tabletop

open Quantity Decimal

/-! ## Ticks that change no walk -/

variable {α : Type} [Quantity α]

namespace Clock

variable (c : Clock α) (time : α)

/-- A token without a walk is the same afterwards. -/
theorem find?_advanceWalks {walks : List (Walk α)} {id : TokenId}
    (h : id ∉ walks.map (·.token)) (tokens : List (Token α)) :
    (c.advanceWalks time tokens walks).1.find? (·.id == id) = tokens.find? (·.id == id) := by
  induction walks generalizing tokens with
  | nil => rfl
  | cons w rest ih =>
    rw [List.map_cons, List.mem_cons, not_or] at h
    rw [advanceWalks]
    split
    · exact ih h.2 tokens
    · dsimp only
      split
      all_goals
        rw [ih h.2]
        refine find?_updateFirst_of_not (fun t ht => ?_) tokens
        have hother : w.token ≠ id := fun he => h.1 he.symm
        rw [beq_iff_eq.mp ht]
        exact ⟨beq_eq_false_iff_ne.mpr hother, beq_eq_false_iff_ne.mpr hother⟩

/-- The walk of a token that is gone does not stay. -/
theorem advanceWalks_cons_ne_self {tokens : List (Token α)} {w : Walk α} {rest : List (Walk α)}
    (hfind : tokens.find? (·.id == w.token) = none) :
    c.advanceWalks time tokens (w :: rest) ≠ (tokens, w :: rest, []) := by
  rw [advanceWalks, hfind]
  intro h
  have hlength := (c.advanceWalks_walks time tokens rest).length_le
  have hwalks : (c.advanceWalks time tokens rest).2.1 = w :: rest := congrArg (·.2.1) h
  rw [hwalks, List.map_cons, List.length_cons] at hlength
  omega

/-- No walk after the first one brings its token back. -/
theorem advanceWalks_cons_eq_self_iff {tokens : List (Token α)} {w : Walk α} {rest : List (Walk α)}
    (hnot : w.token ∉ rest.map (·.token)) {token : Token α}
    (hfind : tokens.find? (·.id == w.token) = some token) :
    c.advanceWalks time tokens (w :: rest) = (tokens, w :: rest, []) ↔
      (w.advance c.epsilon time token.position = (w, token.position) ∧ w.isFinished = false) ∧
        c.advanceWalks time tokens rest = (tokens, rest, []) := by
  rw [advanceWalks, hfind]
  dsimp only
  generalize w.advance c.epsilon time token.position = r
  obtain ⟨w', position⟩ := r
  have hfixed : position = token.position →
      updateFirst (·.id == w.token) ({ · with position := position }) tokens = tokens :=
    fun h => updateFirst_of_fixed hfind (by rw [h])
  have hplace := find?_updateFirst (f := ({ · with position := position })) hfind
    (by simpa using List.find?_some hfind)
  generalize updateFirst (·.id == w.token) ({ · with position := position }) tokens = moved
    at hfixed hplace
  rw [← c.find?_advanceWalks time hnot] at hplace
  dsimp only
  constructor
  · intro h
    split at h
    · cases congrArg (·.2.2) h
    · rename_i hgoes
      have htokens : (c.advanceWalks time moved rest).1 = tokens := congrArg (·.1) h
      obtain ⟨rfl, hwalks⟩ := List.cons.inj (congrArg (·.2.1) h)
      have harrived : (c.advanceWalks time moved rest).2.2 = [] := congrArg (·.2.2) h
      rw [htokens, hfind, Option.some.injEq] at hplace
      have hposition : position = token.position := (congrArg Token.position hplace).symm
      refine ⟨⟨by rw [hposition], by simpa using hgoes⟩, ?_⟩
      rw [← hfixed hposition]
      exact Prod.ext (by rw [htokens, hfixed hposition]) (Prod.ext hwalks harrived)
  · rintro ⟨⟨hstill, hgoes⟩, hrest⟩
    obtain ⟨rfl, hposition⟩ := Prod.mk.inj hstill
    rw [hfixed hposition, hrest, hgoes]
    rfl

/-- Nothing is different exactly if every walk is that of a token that is there, leaves it where it is
and goes on. -/
theorem advanceWalks_eq_self_iff {tokens : List (Token α)} {walks : List (Walk α)}
    (hone : (walks.map (·.token)).Nodup) :
    c.advanceWalks time tokens walks = (tokens, walks, []) ↔
      ∀ w ∈ walks, ∃ t, tokens.find? (·.id == w.token) = some t ∧
        w.advance c.epsilon time t.position = (w, t.position) ∧ w.isFinished = false := by
  induction walks with
  | nil => exact iff_of_true rfl (by simp)
  | cons w rest ih =>
    obtain ⟨hnot, hone⟩ := List.nodup_cons.mp hone
    rw [List.forall_mem_cons, ← ih hone]
    cases hfind : tokens.find? (·.id == w.token) with
    | none => exact iff_of_false (c.advanceWalks_cons_ne_self time hfind) (by simp)
    | some token =>
      rw [c.advanceWalks_cons_eq_self_iff time hnot hfind]
      simp

theorem tick_eq_self_iff (seconds : α) {s : Scene α}
    (hage : s.effects.map (older (c.elapsed seconds)) = s.effects) :
    c.tick s seconds = (s, ⟨[], []⟩) ↔
      c.advanceWalks (c.elapsed seconds) s.tokens s.walks = (s.tokens, s.walks, []) ∧
        ∀ e ∈ s.effects, isExpired e = false := by
  rw [tick, hage]
  generalize c.advanceWalks (c.elapsed seconds) s.tokens s.walks = r
  obtain ⟨tokens, walks, arrived⟩ := r
  constructor
  · intro h
    have htokens : tokens = s.tokens := congrArg (·.1.tokens) h
    have hwalks : walks = s.walks := congrArg (·.1.walks) h
    have harrived : arrived = [] := congrArg (·.2.arrived) h
    have heffects : s.effects.filter (!isExpired ·) = s.effects := congrArg (·.1.effects) h
    rw [htokens, hwalks, harrived]
    refine ⟨rfl, fun e he => ?_⟩
    simpa using List.filter_eq_self.mp heffects e he
  · rintro ⟨hwalks, heffects⟩
    cases hwalks
    have hstay : s.effects.filter (!isExpired ·) = s.effects :=
      List.filter_eq_self.mpr fun e he => by rw [heffects e he]; rfl
    have hover : s.effects.filter isExpired = [] :=
      List.filter_eq_nil_iff.mpr fun e he => by rw [heffects e he]; exact Bool.false_ne_true
    dsimp only
    rw [hstay, hover]
    rfl

end Clock

namespace Walk

section Passed

variable {epsilon budget : α} {position target : Point α}

/-- Where the next waypoint is not passed, no more than the position can change. -/
theorem along_eq_self_iff (rest : List (Point α))
    (hbudget : atMost (position.distance target) budget = false)
    (hepsilon : below (position.distance target) epsilon = false) :
    along epsilon budget position (target :: rest) = (0, position) ↔
      position.toward target (budget / position.distance target) = position := by
  rw [along, hbudget, hepsilon]
  simp only [Bool.or_self, Bool.false_eq_true, if_false]
  split
  · rename_i hnear
    refine iff_of_false (by simp) fun h => ?_
    rw [h, hepsilon] at hnear
    cases hnear
  · simp

theorem along_ne_self (rest : List (Point α))
    (h : atMost (position.distance target) budget = true ∨
      below (position.distance target) epsilon = true) :
    along epsilon budget position (target :: rest) ≠ (0, position) := by
  rw [along, if_pos (by rwa [Bool.or_eq_true])]
  intro heq
  cases congrArg (·.1) heq

end Passed

theorem advance_eq_self_iff {epsilon time : α} {w : Walk α} {position : Point α} :
    w.advance epsilon time position = (w, position) ↔
      along epsilon (orZero w.speed * time) position (w.path.drop w.index) = (0, position) := by
  rw [advance]
  generalize along epsilon (orZero w.speed * time) position (w.path.drop w.index) = r
  obtain ⟨passed, place⟩ := r
  dsimp only
  rw [Prod.mk.injEq, Prod.mk.injEq]
  refine and_congr_left fun _ => ?_
  constructor
  · intro h
    have hindex : w.index + passed = w.index := congrArg Walk.index h
    omega
  · rintro rfl
    rfl

end Walk

/-! ## Places -/

namespace Point

/-- No coordinate is the negative zero. -/
def Plain (p : Point Float) : Prop := p.col ≠ -0.0 ∧ p.row ≠ -0.0

def IsFinite (p : Point Float) : Prop := p.col.isFinite = true ∧ p.row.isFinite = true

def IsNaN (p : Point Float) : Prop := p.col.isNaN = true ∧ p.row.isNaN = true

variable {p q : Point Float} {f : Float}

theorem toNat_lt_two_pow_53 (n : UInt32) : n.toNat < 2 ^ 53 := by
  have hlt := n.toNat_lt
  omega

theorem plain_ofCell (cell : Cell) : (ofCell cell).Plain :=
  ⟨ofNat_ne_negative_zero (toNat_lt_two_pow_53 _), ofNat_ne_negative_zero (toNat_lt_two_pow_53 _)⟩

theorem small_ofCell (cell : Cell) : Small (ofCell cell).col ∧ Small (ofCell cell).row :=
  ⟨small_ofNat (toNat_lt_two_pow_53 _), small_ofNat (toNat_lt_two_pow_53 _)⟩

theorem Plain.toward (h : p.Plain) (q : Point Float) (f : Float) : (p.toward q f).Plain :=
  ⟨add_ne_negative_zero h.1, add_ne_negative_zero h.2⟩

theorem eq_of_isNaN (hp : p.IsNaN) (hq : q.IsNaN) : p = q := by
  obtain ⟨a, b⟩ := p
  obtain ⟨c, d⟩ := q
  congr 1
  · exact Decimal.eq_of_isNaN hp.1 hq.1
  · exact Decimal.eq_of_isNaN hp.2 hq.2

theorem toward_isNaN (hf : f.isNaN = true) : (p.toward q f).IsNaN :=
  ⟨isNaN_add (.inr (isNaN_mul hf)), isNaN_add (.inr (isNaN_mul hf))⟩

theorem toward_eq_self_iff_of_isNaN (hf : f.isNaN = true) : p.toward q f = p ↔ p.IsNaN := by
  constructor
  · intro h
    rw [← h]
    exact toward_isNaN hf
  · exact eq_of_isNaN (toward_isNaN hf)

variable {cell : Cell}

theorem toward_eq_self_iff_of_zero (hp : p.Plain) (hf : HasValue f 0) :
    p.toward (.ofCell cell) f = p ↔ p.col.isInf = false ∧ p.row.isInf = false := by
  obtain ⟨hcol, hrow⟩ := small_ofCell cell
  rw [← hcol.add_sub_mul_eq_iff hp.1 hf, ← hrow.add_sub_mul_eq_iff hp.2 hf]
  obtain ⟨a, b⟩ := p
  rw [toward, Point.mk.injEq]

theorem isNaN_distance (hcol : p.col.isInf = false) (hrow : p.row.isInf = false)
    (h : p.col.isNaN = true ∨ p.row.isNaN = true) : (p.distance (.ofCell cell)).isNaN = true := by
  obtain ⟨hcols, hrows⟩ := small_ofCell cell
  exact isNaN_hypotenuse (hcols.isInf_sub hcol) (hrows.isInf_sub hrow) (h.imp isNaN_sub isNaN_sub)

theorem IsNaN.distance (h : p.IsNaN) : (p.distance (.ofCell cell)).isNaN = true :=
  isNaN_distance (isInf_eq_false_iff.mpr (.inr h.1)) (isInf_eq_false_iff.mpr (.inr h.2)) (.inl h.1)

/-- A place at a distance that is a number is finite, unless it is infinite. -/
theorem isFinite_iff_of_pos (hpos : 0.0 < p.distance (.ofCell cell)) :
    p.IsFinite ↔ p.col.isInf = false ∧ p.row.isInf = false := by
  constructor
  · rintro ⟨hcol, hrow⟩
    exact ⟨isInf_eq_false_iff.mpr (.inl hcol), isInf_eq_false_iff.mpr (.inl hrow)⟩
  · rintro ⟨hcol, hrow⟩
    have hnumber : ¬ (p.col.isNaN = true ∨ p.row.isNaN = true) := fun h =>
      not_lt_of_isNaN (.inr (isNaN_distance hcol hrow h)) hpos
    obtain ⟨hcolnumber, hrownumber⟩ := not_or.mp hnumber
    exact ⟨(isInf_eq_false_iff.mp hcol).resolve_right hcolnumber,
      (isInf_eq_false_iff.mp hrow).resolve_right hrownumber⟩

end Point

/-! ## Walks without any time -/

theorem atMost_float_iff {a b : Float} : atMost a b = true ↔ a ≤ b := decide_eq_true_iff

theorem below_float_iff {a b : Float} : below a b = true ↔ a < b := decide_eq_true_iff

theorem orZero_of_not_pos {x : Float} (h : ¬ 0.0 < x) : orZero x = 0.0 := by
  rw [orZero]
  exact if_neg (mt below_float_iff.mp h)

theorem zero_mul_orZero {x : Float} (h : x.isFinite = true) : 0.0 * orZero x = 0.0 := by
  by_cases hpos : 0.0 < x
  · have hsame : orZero x = x := if_pos (below_float_iff.mpr hpos)
    rw [hsame]
    exact zero_mul_of_pos h hpos
  · rw [orZero_of_not_pos hpos]
    decide +kernel

/-- No time passes where there are no seconds. -/
theorem Clock.elapsed_eq_zero (settings : Settings.Animation) {seconds : Float}
    (h : seconds.isFinite = true → ¬ 0.0 < seconds) :
    (Clock.ofSettings settings).elapsed seconds = 0.0 := by
  rw [elapsed]
  split
  · rename_i hfinite
    rw [orZero_of_not_pos (h hfinite), ofSettings]
    dsimp only
    split
    · rename_i hscale
      exact zero_mul_orZero hscale
    · decide +kernel
  · rfl

namespace Walk

/-- What a walk needs to be left alone by a tick without any time: its token is at a distance from the
next waypoint, and not within the arrival distance, and it has a finite speed. What is at no place at
all stays there, too. -/
def Rests (epsilon speed : Float) (position target : Point Float) : Prop :=
  position.IsNaN ∨
    position.IsFinite ∧ (orZero speed).isFinite = true ∧ 0.0 < position.distance target ∧
      ¬ position.distance target < epsilon

variable {epsilon speed : Float} {position : Point Float} {cell : Cell}

/-- What a walk may spend without any time. -/
theorem hasValue_budget (h : (orZero speed).isFinite = true) : HasValue (orZero speed * 0.0) 0 := by
  obtain ⟨v, hv⟩ := isFinite_iff.mp h
  exact hv.mul_of_zero (hasValue_zero_iff.mpr ⟨.positive, rfl⟩)

theorem isNaN_budget (h : (orZero speed).isFinite = false) : (orZero speed * 0.0).isNaN = true :=
  isNaN_mul_zero h (hasValue_zero_iff.mpr ⟨.positive, rfl⟩)

theorem along_rests_iff (hplain : position.Plain) (rest : List (Point Float)) :
    along epsilon (orZero speed * 0.0) position (.ofCell cell :: rest) = (0, position) ↔
      Rests epsilon speed position (.ofCell cell) := by
  have hzero : HasValue 0.0 0 := hasValue_zero_iff.mpr ⟨.positive, rfl⟩
  by_cases hpassed : position.distance (.ofCell cell) ≤ orZero speed * 0.0 ∨
      position.distance (.ofCell cell) < epsilon
  · refine iff_of_false (along_ne_self rest ?_) ?_
    · rwa [atMost_float_iff, below_float_iff]
    · rintro (hnone | ⟨-, hspeed, hpos, hfar⟩)
      · have hdistance : (position.distance (.ofCell cell)).isNaN = true := hnone.distance
        exact hpassed.elim (not_le_of_isNaN (.inl hdistance)) (not_lt_of_isNaN (.inl hdistance))
      · exact hpassed.elim ((not_le_zero_iff (hasValue_budget hspeed) hzero).mpr (.inr hpos)) hfar
  obtain ⟨hbudget, hfar⟩ := not_or.mp hpassed
  rw [along_eq_self_iff rest (by rwa [← Bool.not_eq_true, atMost_float_iff])
    (by rwa [← Bool.not_eq_true, below_float_iff])]
  cases hspeed : (orZero speed).isFinite with
  | false =>
    rw [Point.toward_eq_self_iff_of_isNaN (isNaN_div (.inl (isNaN_budget hspeed)))]
    constructor
    · exact .inl
    · rintro (hnone | ⟨-, hfinite, -⟩)
      · exact hnone
      · cases hspeed.symm.trans hfinite
  | true =>
    rcases (not_le_zero_iff (hasValue_budget hspeed) hzero).mp hbudget with hnumber | hpos
    · rw [Point.toward_eq_self_iff_of_isNaN (isNaN_div (.inr hnumber))]
      constructor
      · exact .inl
      · rintro (hnone | ⟨-, -, hpos, -⟩)
        · exact hnone
        · exact absurd hpos (not_lt_of_isNaN (.inr hnumber))
    · have hfraction := hasValue_zero_div (hasValue_budget hspeed) hzero hpos
      rw [Point.toward_eq_self_iff_of_zero hplain hfraction, ← Point.isFinite_iff_of_pos hpos]
      constructor
      · intro hfinite
        exact .inr ⟨hfinite, hspeed, hpos, hfar⟩
      · rintro (hnone | ⟨hfinite, -⟩)
        · exact absurd hpos (not_lt_of_isNaN (.inr hnone.distance))
        · exact hfinite

theorem advance_rests_iff {epsilon : Float} {w : Walk Float} {position : Point Float}
    (hplain : position.Plain) (hahead : ∀ q ∈ w.path.drop w.index, ∃ cell, q = .ofCell cell) :
    w.advance epsilon 0.0 position = (w, position) ∧ w.isFinished = false ↔
      ∃ target, w.next? = some target ∧ Rests epsilon w.speed position target := by
  rw [advance_eq_self_iff]
  by_cases hindex : w.index < w.path.length
  · rw [List.drop_eq_getElem_cons hindex] at hahead ⊢
    obtain ⟨⟨cell, hcell⟩, -⟩ := List.forall_mem_cons.mp hahead
    have hnext : w.next? = some (.ofCell cell) := by
      rw [next?, List.getElem?_eq_getElem hindex, hcell]
    have hgoes : w.isFinished = false := by simpa [isFinished] using hindex
    rw [hcell, along_rests_iff hplain, hnext, hgoes]
    simp
  · have hnext : w.next? = none := by
      rw [next?, List.getElem?_eq_none (not_lt.mp hindex)]
    have hover : w.isFinished = true := by simpa [isFinished] using hindex
    rw [hnext, hover]
    simp

end Walk

/-! ## What every world keeps -/

theorem Walk.along_plain {epsilon budget : Float} {position : Point Float}
    {points : List (Point Float)} (h : position.Plain) (hpoints : ∀ q ∈ points, q.Plain) :
    (along epsilon budget position points).2.Plain := by
  induction points generalizing budget position with
  | nil => exact h
  | cons target rest ih =>
    obtain ⟨htarget, hrest⟩ := List.forall_mem_cons.mp hpoints
    rw [along]
    split
    · exact ih htarget hrest
    · dsimp only
      split
      · exact htarget
      · exact h.toward target _

namespace Clock

section LedOn

variable (c : Clock α) (time : α)

/-- What is left of the walks are some of them, led on. -/
theorem exists_ledOn (tokens : List (Token α)) (walks : List (Walk α)) :
    ∀ w' ∈ (c.advanceWalks time tokens walks).2.1, ∃ w ∈ walks, w.LedOn w' := by
  induction walks generalizing tokens with
  | nil => simp [advanceWalks]
  | cons w rest ih =>
    have hrest : ∀ tokens, ∀ w' ∈ (c.advanceWalks time tokens rest).2.1,
        ∃ v ∈ w :: rest, v.LedOn w' := by
      intro tokens w' hw'
      obtain ⟨v, hv, hled⟩ := ih tokens w' hw'
      exact ⟨v, List.mem_cons_of_mem w hv, hled⟩
    rw [advanceWalks]
    split
    · exact hrest tokens
    · dsimp only
      split
      · exact hrest _
      · refine List.forall_mem_cons.mpr ⟨?_, hrest _⟩
        exact ⟨w, List.mem_cons_self, w.ledOn_advance _ _ _⟩

end LedOn

theorem advanceWalks_plain (c : Clock Float) (time : Float) {tokens : List (Token Float)}
    {walks : List (Walk Float)} (htokens : ∀ t ∈ tokens, t.position.Plain)
    (hwalks : ∀ w ∈ walks, ∀ q ∈ w.path.drop w.index, q.Plain) :
    ∀ t ∈ (c.advanceWalks time tokens walks).1, t.position.Plain := by
  induction walks generalizing tokens with
  | nil => exact htokens
  | cons w rest ih =>
    obtain ⟨hw, hrest⟩ := List.forall_mem_cons.mp hwalks
    rw [advanceWalks]
    split
    · exact ih htokens hrest
    · rename_i token hfind
      have hplace : (w.advance c.epsilon time token.position).2.Plain :=
        Walk.along_plain (htokens token (List.mem_of_find?_eq_some hfind)) hw
      have hmoved := forall_mem_updateFirst (p := (·.id == w.token))
        (f := ({ · with position := (w.advance c.epsilon time token.position).2 })) htokens
        fun _ _ => hplace
      dsimp only
      split
      · exact ih hmoved hrest
      · exact ih hmoved hrest

end Clock

namespace Scene

/-- No token is on two walks, the waypoints that are still ahead are cells, and no token is at a
negative zero. -/
structure OnCells (s : Scene Float) : Prop where
  oneWalkEach : (s.walks.map (·.token)).Nodup
  ahead : ∀ w ∈ s.walks, ∀ q ∈ w.path.drop w.index, ∃ cell, q = .ofCell cell
  plain : ∀ t ∈ s.tokens, t.position.Plain

def Aging (s : Scene Float) : Prop := ∀ e ∈ s.effects, e.age ≠ -0.0

theorem onCells_empty : (empty : Scene Float).OnCells where
  oneWalkEach := List.nodup_nil
  ahead := by simp [empty]
  plain := by simp [empty]

theorem aging_empty : (empty : Scene Float).Aging := by simp [Aging, empty]

theorem OnCells.fewer {s s' : Scene Float} (h : s.OnCells) (tokens : s'.tokens.Sublist s.tokens)
    (walks : s'.walks.Sublist s.walks) : s'.OnCells where
  oneWalkEach := h.oneWalkEach.sublist (walks.map _)
  ahead w hw := h.ahead w (walks.subset hw)
  plain t ht := h.plain t (tokens.subset ht)

theorem OnCells.setWalk {s : Scene Float} (h : s.OnCells) {w : Walk Float}
    (hahead : ∀ q ∈ w.path.drop w.index, ∃ cell, q = .ofCell cell) : (s.setWalk w).OnCells where
  oneWalkEach := nodup_setWalk h.oneWalkEach w
  ahead v hv := by
    rcases List.mem_append.mp hv with hv | hv
    · exact h.ahead v (List.mem_of_mem_filter hv)
    · rw [List.mem_singleton.mp hv]
      exact hahead
  plain := h.plain

theorem OnCells.tick {s : Scene Float} (h : s.OnCells) (c : Clock Float) (seconds : Float) :
    (c.tick s seconds).1.OnCells where
  oneWalkEach := h.oneWalkEach.sublist (c.advanceWalks_walks _ s.tokens s.walks)
  ahead w' hw' q hq := by
    obtain ⟨w, hw, hled⟩ := c.exists_ledOn (c.elapsed seconds) s.tokens s.walks w' hw'
    rw [hled.path] at hq
    exact h.ahead w hw q ((List.drop_sublist_drop_left w.path hled.index).subset hq)
  plain := by
    refine c.advanceWalks_plain _ h.plain fun w hw q hq => ?_
    obtain ⟨cell, rfl⟩ := h.ahead w hw q hq
    exact Point.plain_ofCell cell

theorem Aging.tick {s : Scene Float} (h : s.Aging) (c : Clock Float) (seconds : Float) :
    (c.tick s seconds).1.Aging := by
  intro e he
  obtain ⟨e, he', rfl⟩ := List.mem_map.mp (List.mem_of_mem_filter he)
  exact add_ne_negative_zero (h e he')

end Scene

namespace World

theorem Change.onCells {i : Instruction} {w w' : World} (h : Change i w w')
    (hw : w.scene.OnCells) : w'.scene.OnCells := by
  cases h with
  | kept tokens walks => exact hw.fewer (by rw [tokens]) (by rw [walks])
  | spawned sprite stem given attrs sprites cells =>
    obtain ⟨new, hscene, hcells⟩ := spawnOn_scene sprite stem attrs { w with sprites } cells
    rw [hscene]
    refine ⟨hw.oneWalkEach, hw.ahead, fun t ht => ?_⟩
    rcases List.mem_append.mp ht with ht | ht
    · exact hw.plain t ht
    · have hplace : t.position ∈ cells.map .ofCell := hcells ▸ List.mem_map_of_mem ht
      obtain ⟨cell, -, hcell⟩ := List.mem_map.mp hplace
      rw [← hcell]
      exact Point.plain_ofCell cell
  | altered id attrs =>
    exact ⟨hw.oneWalkEach, hw.ahead, forall_mem_updateFirst hw.plain fun _ ht => ht⟩
  | sent walk live ahead cells => exact hw.setWalk cells
  | removed id => exact hw.fewer (w.scene.remove_sublist id).1 (w.scene.remove_sublist id).2
  | cleared => exact hw.fewer (List.nil_sublist _) (List.nil_sublist _)
  | wiped => exact Scene.onCells_empty

theorem EffectChange.aging {w w' : World} (h : EffectChange w w') (hw : w.scene.Aging) :
    w'.scene.Aging := by
  cases h with
  | fewer effects last => exact fun e he => hw e (effects.subset he)
  | added kind source target speed duration =>
    intro e he
    rcases List.mem_append.mp he with he | he
    · exact hw e he
    · rw [List.mem_singleton.mp he]
      exact zero_ne_negative_zero
  | wiped => exact Scene.aging_empty

theorem Attained.onCells {w : World} (h : Attained w) : w.scene.OnCells :=
  h.of_steps (P := fun w => w.scene.OnCells) Scene.onCells_empty
    (fun rules w i hw => (change_after rules w i).onCells hw) (fun _ hw => hw)
    fun _ c seconds hw => hw.tick c seconds

theorem Attained.aging {w : World} (h : Attained w) : w.scene.Aging := by
  refine h.of_steps (P := fun w => w.scene.Aging) Scene.aging_empty (fun rules w i hw => ?_)
    (fun _ hw => hw) fun _ c seconds hw => hw.tick c seconds
  rw [after_eq_step]
  exact (effectChange_step rules w i).aging hw

end World

/-! ## Ticks without any time -/

namespace World

/-- In a world that batches and ticks lead to, a tick of zero seconds, of less or of what is no finite
number leaves everything as it is and reports nothing exactly if every walk is that of a token, the
token rests there, and no effect has passed its duration. -/
theorem tick_without_time_iff {w : World} (h : Attained w) (settings : Settings.Animation)
    {seconds : Float} (hseconds : seconds.isFinite = true → ¬ 0.0 < seconds) :
    let c := Clock.ofSettings settings
    w.tick c seconds = (w, ⟨[], []⟩) ↔
      (∀ walk ∈ w.scene.walks, ∃ t, w.scene.token? walk.token = some t ∧
        ∃ target, walk.next? = some target ∧
          Walk.Rests c.epsilon walk.speed t.position target) ∧
      ∀ e ∈ w.scene.effects, ¬ e.duration < e.age := by
  intro c
  have htime : c.elapsed seconds = 0.0 := Clock.elapsed_eq_zero settings hseconds
  have hage : w.scene.effects.map (Clock.older (c.elapsed seconds)) = w.scene.effects := by
    refine (List.map_congr_left fun e he => ?_).trans (List.map_id _)
    rw [htime, Clock.older, add_of_zero (h.aging e he) (hasValue_zero_iff.mpr ⟨.positive, rfl⟩)]
    rfl
  have hworld : w.tick c seconds = (w, ⟨[], []⟩) ↔
      c.tick w.scene seconds = (w.scene, ⟨[], []⟩) := by
    constructor
    · intro heq
      exact Prod.ext (congrArg (·.1.scene) heq) (congrArg (·.2) heq)
    · intro heq
      rw [tick, heq]
  rw [hworld, c.tick_eq_self_iff seconds hage, htime,
    c.advanceWalks_eq_self_iff 0.0 h.onCells.oneWalkEach]
  refine and_congr (forall₂_congr fun walk hwalk => exists_congr fun t => and_congr_right fun ht => ?_)
    (forall₂_congr fun e _ => ?_)
  · exact Walk.advance_rests_iff (h.onCells.plain t (List.mem_of_find?_eq_some ht))
      (h.onCells.ahead walk hwalk)
  · rw [← below_float_iff, Bool.not_eq_true]
    rfl

/-- A goblin on its way and smoke that has not gone yet: two seconds less than none leave both. -/
theorem tick_without_time_underway :
    ∃ w : World, Attained w ∧ w.scene.walks.map (·.index) = [1] ∧ w.effectIds = [1] ∧
      w.scene.tokens.map (·.position) = [⟨1.0, 0.0⟩] ∧
      w.tick (.ofSettings {}) (-2.0) = (w, ⟨[], []⟩) := by
  let rules : Rules := .ofSettings {} 0
  let march : List Instruction :=
    [.board 9 1, .spriteDef "G" ∅, .place "G" [⟨0, 0⟩], .move "G-1" (.to ⟨3, 0⟩),
      .effect "smoke" ⟨4, 0⟩ none none]
  have hattained := (Attained.empty.apply rules march).tick (.ofSettings {}) 0.25
  obtain ⟨w, hw⟩ : ∃ w, w = ((World.empty.apply rules march).1.tick (.ofSettings {}) 0.25).1 :=
    ⟨_, rfl⟩
  rw [← hw] at hattained
  have hwalks : w.scene.walks = [⟨⟨"G", 1⟩, [.ofCell ⟨0, 0⟩, .ofCell ⟨3, 0⟩], 1, 4.0⟩] :=
    hw ▸ by decide +kernel
  have hplace : (w.scene.token? ⟨"G", 1⟩).map (·.position) = some ⟨1.0, 0.0⟩ :=
    hw ▸ by decide +kernel
  obtain ⟨t, ht, hposition⟩ := Option.map_eq_some_iff.mp hplace
  refine ⟨w, hattained, by rw [hwalks]; rfl, hw ▸ by decide +kernel, hw ▸ by decide +kernel, ?_⟩
  refine (tick_without_time_iff hattained {} fun _ => by decide +kernel).mpr ⟨fun walk hwalk => ?_, ?_⟩
  · rw [hwalks] at hwalk
    obtain rfl := List.mem_singleton.mp hwalk
    refine ⟨t, ht, .ofCell ⟨3, 0⟩, rfl, .inr ?_⟩
    rw [hposition]
    exact ⟨⟨by decide +kernel, by decide +kernel⟩, by decide +kernel, by decide +kernel,
      by decide +kernel⟩
  · rw [hw]
    decide +kernel

/-- A goblin has turned round close to its cell, and then there comes what is no number of seconds: it
passes its cell and goes on behind it, away from where it is to go. -/
theorem tick_without_time_moves :
    ∃ w : World, Attained w ∧ ∃ seconds : Float, seconds.isFinite = false ∧
      w.scene.tokens.map (·.position) = [⟨0.00048828125, 0.0⟩] ∧
      w.scene.walks.map (·.index) = [0] ∧
      (w.tick (.ofSettings {}) seconds).1.scene.tokens.map (·.position) =
        [⟨-0.00048828125, 0.0⟩] ∧
      (w.tick (.ofSettings {}) seconds).1.scene.walks.map (·.index) = [1] ∧
      (w.tick (.ofSettings {}) seconds).1 ≠ w := by
  let rules : Rules := .ofSettings {} 0
  let march : List Instruction :=
    [.board 9 1, .spriteDef "G" ∅, .place "G" [⟨0, 0⟩], .move "G-1" (.to ⟨5, 0⟩)]
  let turn : List Instruction := [.move "G-1" (.waypoints [⟨0, 0⟩, ⟨5, 0⟩])]
  have hattained := ((Attained.empty.apply rules march).tick (.ofSettings {}) 0.0001220703125).apply
    rules turn
  obtain ⟨w, hw⟩ : ∃ w, w = (((World.empty.apply rules march).1.tick (.ofSettings {})
    0.0001220703125).1.apply rules turn).1 := ⟨_, rfl⟩
  rw [← hw] at hattained
  have hbefore : w.scene.walks.map (·.index) = [0] := hw ▸ by decide +kernel
  have hafter : (w.tick (.ofSettings {}) Decimal.notANumber).1.scene.walks.map (·.index) = [1] :=
    hw ▸ by decide +kernel
  refine ⟨w, hattained, Decimal.notANumber, by decide +kernel, hw ▸ by decide +kernel, hbefore,
    hw ▸ by decide +kernel, hafter, fun h => ?_⟩
  rw [h, hbefore] at hafter
  cases hafter

end World

end Tabletop
