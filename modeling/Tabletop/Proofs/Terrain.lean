import Tabletop.Proofs.Board
import Tabletop.Proofs.Dict
import Tabletop.Proofs.Random
import Tabletop.World.Step

/-!
# Random terrain

A height is drawn for each cell and then rounded to one decimal place, which may take it out of the
range again.

* `Decimal.Tenths` is the rounding to one decimal place, and `Decimal.Tenths.mono` that it keeps the
  order.
* `World.KeepsRange`: what a sampler draws is rounded into the range.
* `World.heights_in_range_iff`: the heights of all seeds stay in the range if and only if the sampler
  keeps it. A sampler that stays in the range keeps it if both ends are rounded into it, and
  `Random.nextFloat` does so if and only if its least and its greatest draw are.
-/

namespace Tabletop

/-! ## One decimal place -/

namespace Decimal

/-- What `v` is with one decimal place, worked out with roundings. A number that has too many tenths
for them to be counted stays as it is. -/
def Tenths (v w : ℚ) : Prop :=
  |v * 10| < threshold ∧ (∃ y, Rounded (v * 10) y ∧ Rounded (roundAway y / 10) w) ∨
    threshold ≤ |v * 10| ∧ w = v

theorem roundAway_neg (v : ℚ) : roundAway (-v) = -roundAway v := by
  rcases lt_trichotomy v 0 with h | rfl | h
  · rw [roundAway, roundAway, if_neg (by linarith), if_pos h, neg_neg]
  · rw [neg_zero, ← Int.cast_zero, roundAway_intCast, neg_zero]
  · rw [roundAway, roundAway, if_pos (by linarith), if_neg h.not_gt, neg_neg]

/-- The threshold is a whole number. -/
theorem roundAway_le_threshold {y : ℚ} (h : y < threshold) : (roundAway y : ℚ) ≤ threshold := by
  have hmultiple : ∃ z : ℤ, threshold = z * 2 ^ (970 : ℤ) :=
    ⟨2 ^ 54 - 1, by rw [threshold, Int.cast_sub, Int.cast_pow, Int.cast_ofNat, Int.cast_one]⟩
  obtain ⟨z, hz⟩ := exists_multiple_of_le (p := 0) (by omega) hmultiple
  rw [zpow_zero, mul_one] at hz
  rw [hz] at h ⊢
  have hle := roundAway_mono h.le
  rw [roundAway_intCast] at hle
  exact_mod_cast hle

namespace Tenths

variable {v w v' w' y : ℚ}

theorem neg (h : Tenths v w) : Tenths (-v) (-w) := by
  have hten : |-v * 10| = |v * 10| := by rw [neg_mul, abs_neg]
  rw [Tenths, hten]
  rcases h with ⟨hsmall, y, hy, hw⟩ | ⟨hlarge, rfl⟩
  · refine .inl ⟨hsmall, -y, ?_, ?_⟩
    · rw [neg_mul]
      exact hy.neg
    · rw [roundAway_neg, Int.cast_neg, neg_div]
      exact hw.neg
  · exact .inr ⟨hlarge, rfl⟩

theorem of_small (h : Tenths v w) (hsmall : |v * 10| < threshold) :
    ∃ y, Rounded (v * 10) y ∧ Rounded (roundAway y / 10) w := by
  rcases h with ⟨-, h⟩ | ⟨hlarge, -⟩
  · exact h
  · exact absurd hsmall hlarge.not_gt

theorem eq_of_large (h : Tenths v w) (hlarge : threshold ≤ |v * 10|) : w = v := by
  rcases h with ⟨hsmall, -⟩ | ⟨-, h⟩
  · exact absurd hsmall hlarge.not_gt
  · exact h

/-- What has too many tenths is above what is rounded. -/
theorem le_of_large (hv' : Rounded v' v') (h : Tenths v w) (hle : v ≤ v')
    (hlarge : threshold ≤ v' * 10) : w ≤ v' := by
  rcases h with ⟨hsmall, y, hy, hw⟩ | ⟨-, rfl⟩
  · refine hw.mono hv' ?_
    rw [div_le_iff₀ (by norm_num)]
    exact (roundAway_le_threshold (hy.lt_threshold hsmall)).trans hlarge
  · exact hle

/-- The order is kept. -/
theorem mono (hv : Rounded v v) (hv' : Rounded v' v') (h : Tenths v w) (h' : Tenths v' w')
    (hle : v ≤ v') : w ≤ w' := by
  rcases le_or_gt threshold (v' * 10) with hhigh | hhigh
  · rw [h'.eq_of_large (hhigh.trans (le_abs_self _))]
    exact h.le_of_large hv' hle hhigh
  rcases le_or_gt threshold (-v * 10) with hlow | hlow
  · rw [h.eq_of_large (hlow.trans (by rw [neg_mul]; exact neg_le_abs _))]
    exact neg_le_neg_iff.mp (h'.neg.le_of_large hv.neg (neg_le_neg hle) hlow)
  · obtain ⟨y, hy, hw⟩ := h.of_small (abs_lt.mpr ⟨by linarith, by linarith⟩)
    obtain ⟨y', hy', hw'⟩ := h'.of_small (abs_lt.mpr ⟨by linarith, by linarith⟩)
    have hround : (roundAway y : ℚ) ≤ roundAway y' := by
      exact_mod_cast roundAway_mono (hy.mono hy' (by linarith))
    exact hw.mono hw' (div_le_div_of_nonneg_right hround (by norm_num))

theorem unique (hv : Rounded v v) (h : Tenths v w) (h' : Tenths v w') : w = w' :=
  le_antisymm (mono hv hv h h' le_rfl) (mono hv hv h' h le_rfl)

end Tenths

end Decimal

namespace Board

/-- Every cell has a height from `low` to `high`. -/
def HeightsIn (b : Board) (low high : Float) : Prop :=
  ∀ c, b.contains c = true → ∃ x, b.heights.get? c = some x ∧ low ≤ x ∧ x ≤ high

end Board

namespace World

open Decimal
open Tabletop.Random (Span Drawn leading lowest highest greatest)

/-! ## Heights -/

theorem hasValue_ten : HasValue 10.0 10 := by
  have hparts : Binary.ofFloat? 10.0 = some ⟨false, 5 * 2 ^ 50, -49⟩ := by decide +kernel
  rw [HasValue, ← map_value_ofFloat?, hparts, Option.map_some]
  norm_num [Binary.value]

theorem roundedHeight_of_infinite {x : Float} {s : Float.Model.UnpackedFloat.Sign}
    (h : (x * 10.0).toModel.unpack = .infinity s) : roundedHeight x = x := by
  have hround : roundHalfAway (x * 10.0) = x * 10.0 := by
    have hnone := map_value_ofFloat? (x * 10.0)
    rw [h, value?, Option.map_eq_none_iff] at hnone
    rw [roundHalfAway, hnone]
  have hinfinite : (x * 10.0 / 10.0).isFinite = false := isFinite_div_of_infinite h hasValue_ten
  rw [roundedHeight]
  simp only [hround, hinfinite]
  rfl

theorem hasValue_roundedHeight {x : Float} {v : ℚ} (h : HasValue x v) :
    ∃ w, HasValue (roundedHeight x) w ∧ Tenths v w := by
  have hproduct := h.mul hasValue_ten
  rcases lt_or_ge |v * 10| threshold with hsmall | hlarge
  · obtain ⟨y, hy, hyrounded⟩ := hproduct.rounds hsmall
    have hround := hasValue_roundHalfAway hy
    have hquotient := hround.div hasValue_ten (by norm_num)
    have hless : |(roundAway y : ℚ) / 10| < threshold := by
      rw [abs_div]
      refine lt_of_le_of_lt (div_le_self (abs_nonneg _) ?_) hround.abs_lt_threshold
      norm_num
    obtain ⟨w, hw, hwrounded⟩ := hquotient.rounds hless
    have hfinite := isFinite_iff.mpr ⟨w, hw⟩
    refine ⟨w, ?_, .inl ⟨hsmall, y, hyrounded, hwrounded⟩⟩
    rw [roundedHeight]
    simp only [hfinite]
    exact hw
  · obtain ⟨s, hs, -⟩ := hproduct.infinite hlarge
    rw [roundedHeight_of_infinite hs]
    exact ⟨v, h, .inr ⟨hlarge, rfl⟩⟩

section Heights

variable {sample : Random.Sampler} {low high : Float} {r : Random}

theorem drawHeights_cons (sample : Random.Sampler) (low high : Float) (r : Random) (c : Cell)
    (cells : List Cell) :
    drawHeights sample low high r (c :: cells) =
      (c, roundedHeight (sample low high r).1) ::
        drawHeights sample low high (sample low high r).2 cells := rfl

/-- The cells get their heights in their order. -/
theorem map_fst_drawHeights (sample : Random.Sampler) (low high : Float) (r : Random)
    (cells : List Cell) : (drawHeights sample low high r cells).map (·.1) = cells := by
  induction cells generalizing r with
  | nil => rfl
  | cons c cells ih => rw [drawHeights_cons, List.map_cons, ih]

theorem exists_draw {cells : List Cell} {e : Cell × Float}
    (h : e ∈ drawHeights sample low high r cells) :
    ∃ r', e.2 = roundedHeight (sample low high r').1 := by
  induction cells generalizing r with
  | nil => cases h
  | cons c cells ih =>
    rw [drawHeights_cons] at h
    rcases List.mem_cons.mp h with rfl | h
    · exact ⟨r, rfl⟩
    · exact ih h

end Heights

/-- What is finite and in order is not skipped on a board with cells. -/
theorem heightRandom_eq {rules : Rules} {w : World} {seed : Option UInt64} {low high : Float}
    {l h s : ℚ} (i : Span low high l h s) (hboard : w.board.cells ≠ []) :
    (w.heightRandom rules seed low high).skipped = none ∧
      (w.heightRandom rules seed low high).world =
        w.withHeights
          (drawHeights rules.sample low high ⟨seed.getD rules.clockSeed⟩ w.board.cells) := by
  have hfinite : (high - low).isFinite = true := isFinite_iff.mpr ⟨s, i.length⟩
  have horder : ¬ low > high := fun hgt => i.ordered.not_gt ((i.upper.lt_iff i.lower).mp hgt)
  have hcells : w.board.cells.isEmpty = false := List.isEmpty_eq_false_iff.mpr hboard
  unfold heightRandom
  rw [if_neg (by simp [hfinite, horder]), hcells]
  exact ⟨rfl, rfl⟩

theorem heights_withHeights (w : World) (heights : List (Cell × Float)) :
    (w.withHeights heights).board.heights = w.board.heights.insertAll heights := rfl

section Heights

variable {sample : Random.Sampler} {low high : Float} {r : Random}

theorem height_of_mem (w : World) {e : Cell × Float}
    (he : e ∈ drawHeights sample low high r w.board.cells) :
    (w.withHeights (drawHeights sample low high r w.board.cells)).board.heights.get? e.1 =
      some e.2 := by
  rw [heights_withHeights]
  refine Dict.get?_insertAll_of_mem _ ?_ he
  rw [map_fst_drawHeights]
  exact Board.nodup_cellsOf _ _

/-- Each cell gets the rounded height of a draw. -/
theorem height_of_draw (w : World) {c : Cell} (hc : w.board.contains c = true) :
    ∃ r', (w.withHeights (drawHeights sample low high r w.board.cells)).board.heights.get? c =
      some (roundedHeight (sample low high r').1) := by
  have hmem := Board.mem_cells.mpr hc
  rw [← map_fst_drawHeights sample low high r w.board.cells] at hmem
  obtain ⟨⟨c, x⟩, he, rfl⟩ := List.mem_map.mp hmem
  obtain ⟨r', rfl⟩ := exists_draw he
  exact ⟨r', height_of_mem w he⟩

/-- The first cell gets the first draw. -/
theorem height_of_first (r : Random) {w : World} {c : Cell} {cells : List Cell}
    (hcells : w.board.cells = c :: cells) :
    (w.withHeights (drawHeights sample low high r w.board.cells)).board.heights.get? c =
      some (roundedHeight (sample low high r).1) := by
  have hmem : (c, roundedHeight (sample low high r).1) ∈
      drawHeights sample low high r w.board.cells := by
    rw [hcells, drawHeights_cons]
    exact List.mem_cons_self
  exact height_of_mem w hmem

end Heights

/-! ## The range -/

/-- The rounding of heights keeps the order. -/
theorem roundedHeight_mono {x y : Float} {v w : ℚ} (hx : HasValue x v) (hy : HasValue y w)
    (h : x ≤ y) : roundedHeight x ≤ roundedHeight y := by
  obtain ⟨v', hv', htenths⟩ := hasValue_roundedHeight hx
  obtain ⟨w', hw', htenths'⟩ := hasValue_roundedHeight hy
  rw [hx.le_iff hy] at h
  rw [hv'.le_iff hw']
  exact htenths.mono hx.rounded hy.rounded htenths' h

section Span

variable {low high : Float} {l h s : ℚ}

/-- What is between the ends is rounded to something between them, if they are themselves. -/
theorem roundedHeight_between (i : Span low high l h s) {x : Float} (hlow : low ≤ x)
    (hhigh : x ≤ high) :
    (low ≤ roundedHeight low → low ≤ roundedHeight x) ∧
      (roundedHeight high ≤ high → roundedHeight x ≤ high) := by
  obtain ⟨v, hv⟩ := isFinite_iff.mp (isFinite_of_between i.lower i.upper hlow hhigh)
  obtain ⟨a, ha, -⟩ := hasValue_roundedHeight i.lower
  obtain ⟨b, hb, -⟩ := hasValue_roundedHeight hv
  obtain ⟨c, hc, -⟩ := hasValue_roundedHeight i.upper
  have hab := roundedHeight_mono i.lower hv hlow
  have hbc := roundedHeight_mono hv i.upper hhigh
  exact ⟨fun hle => i.lower.le_trans ha hb hle hab, hb.le_trans hc i.upper hbc⟩

/-- No draw comes to more than the greatest one. -/
theorem draw_le_greatest (i : Span low high l h s) (word : UInt64) :
    Span.draw low high word ≤ greatest low high := by
  obtain ⟨x, hx, hdrawn, -⟩ := i.hasValue_draw word
  obtain ⟨x', hx', hdrawn', -⟩ := i.hasValue_draw highest.next64.1
  have hbits : leading word ≤ leading highest.next64.1 := by
    have hlt := Random.leading_lt word
    rw [Random.leading_highest]
    omega
  exact (hx.le_iff hx').mpr (hdrawn.mono i.length_nonneg hbits hdrawn')

theorem roundedHeight_le_high (i : Span low high l h s)
    (hhigh : roundedHeight (greatest low high) ≤ high) (word : UInt64) :
    roundedHeight (Span.draw low high word) ≤ high := by
  obtain ⟨x, hx, -⟩ := i.hasValue_draw word
  obtain ⟨x', hx', -⟩ := i.hasValue_draw highest.next64.1
  obtain ⟨v, hv, -⟩ := hasValue_roundedHeight hx
  obtain ⟨v', hv', -⟩ := hasValue_roundedHeight hx'
  exact hv.le_trans hv' i.upper (roundedHeight_mono hx hx' (draw_le_greatest i word)) hhigh

/-- The least draw is the lower end. -/
theorem le_roundedHeight_of_lowest (i : Span low high l h s)
    (hlow : low ≤ roundedHeight (Span.draw low high lowest.next64.1)) :
    low ≤ roundedHeight low := by
  obtain ⟨x, hx, ⟨p, hp, hxrounded⟩, -⟩ := i.hasValue_draw lowest.next64.1
  obtain ⟨v, hv, htenths⟩ := hasValue_roundedHeight hx
  obtain ⟨v', hv', htenths'⟩ := hasValue_roundedHeight i.lower
  have hzero : p = 0 := by
    rw [Random.leading_lowest, Nat.cast_zero, zero_div, zero_mul] at hp
    exact hp.unique (hasValue_zero .positive).rounded
  obtain rfl : x = l := by
    rw [hzero, zero_add] at hxrounded
    exact hxrounded.unique i.lower.rounded
  obtain rfl := htenths.unique i.lower.rounded htenths'
  rw [i.lower.le_iff hv] at hlow
  exact (i.lower.le_iff hv').mpr hlow

end Span

/-- The draws of this sampler are rounded into the range. -/
def KeepsRange (sample : Random.Sampler) (low high : Float) : Prop :=
  ∀ r, low ≤ roundedHeight (sample low high r).1 ∧ roundedHeight (sample low high r).1 ≤ high

/-- Any state of the generator is a seed, and the first cell shows its draw. -/
theorem heightsIn_iff {rules : Rules} {w : World} {low high : Float} {l h s : ℚ}
    (i : Span low high l h s) (hboard : w.board.cells ≠ []) :
    (∀ seed, (w.heightRandom rules seed low high).world.board.HeightsIn low high) ↔
      KeepsRange rules.sample low high := by
  simp only [(heightRandom_eq i hboard).2]
  constructor
  · intro hall r
    obtain ⟨c, cells, hcells⟩ := List.exists_cons_of_ne_nil hboard
    have hc : w.board.contains c = true := by
      rw [← Board.mem_cells, hcells]
      exact List.mem_cons_self
    obtain ⟨x, hx, hrange⟩ := hall (some r.state) c hc
    rw [Option.getD_some, height_of_first r hcells, Option.some.injEq] at hx
    exact hx ▸ hrange
  · intro hkeeps seed c hc
    obtain ⟨r, hr⟩ := height_of_draw w hc
    exact ⟨_, hr, hkeeps r⟩

theorem keepsRange_of_within {sample : Random.Sampler} {low high : Float} {l h s : ℚ}
    (i : Span low high l h s) (hwithin : sample.Within low high) (hlow : low ≤ roundedHeight low)
    (hhigh : roundedHeight high ≤ high) : KeepsRange sample low high := by
  intro r
  obtain ⟨hlow', hhigh'⟩ := roundedHeight_between i (hwithin r).1 (hwithin r).2
  exact ⟨hlow' hlow, hhigh' hhigh⟩

/-- The seeds with the least and the greatest draw show it. -/
theorem keepsRange_nextFloat_iff {low high : Float} {l h s : ℚ} (i : Span low high l h s) :
    KeepsRange Random.nextFloat low high ↔
      low ≤ roundedHeight low ∧ roundedHeight (greatest low high) ≤ high := by
  constructor
  · intro hkeeps
    exact ⟨le_roundedHeight_of_lowest i (hkeeps lowest).1, (hkeeps highest).2⟩
  · rintro ⟨hlow, hhigh⟩ r
    obtain ⟨hwithin, hwithin'⟩ := i.nextFloat_within r
    exact ⟨(roundedHeight_between i hwithin hwithin').1 hlow, roundedHeight_le_high i hhigh _⟩

/-- Where the range is finite and in order, the board has cells and the sampler stays in the range,
random terrain is not skipped: each cell gets a height that has been drawn from the range and then
rounded to one decimal place. The heights of all seeds are in the range again if and only if all draws
are rounded into it; this is so if both ends are. For the sampler of this library it is enough, and
needed, that the least draw, which is the lower end, and the greatest one are. -/
theorem heights_in_range_iff {rules : Rules} {w : World} {min max : Bound}
    (hspan : (max.value - min.value).isFinite = true) (hle : min.value ≤ max.value)
    (hboard : w.board.cells ≠ []) (hwithin : rules.sample.Within min.value max.value) :
    (∀ seed, (w.step rules (.heightRandom seed min max)).skipped = none ∧
      ∀ c, w.board.contains c = true → ∃ x, min.value ≤ x ∧ x ≤ max.value ∧
        (w.step rules (.heightRandom seed min max)).world.board.heights.get? c =
          some (roundedHeight x)) ∧
    ((∀ seed, (w.step rules (.heightRandom seed min max)).world.board.HeightsIn
        min.value max.value) ↔ KeepsRange rules.sample min.value max.value) ∧
    (min.value ≤ roundedHeight min.value → roundedHeight max.value ≤ max.value →
      KeepsRange rules.sample min.value max.value) ∧
    (rules.sample = Random.nextFloat → (KeepsRange rules.sample min.value max.value ↔
      min.value ≤ roundedHeight min.value ∧
        roundedHeight (greatest min.value max.value) ≤ max.value)) := by
  obtain ⟨l, h, s, i⟩ := Random.exists_span hspan hle
  refine ⟨fun seed => ⟨(heightRandom_eq i hboard).1, fun c hc => ?_⟩, heightsIn_iff i hboard,
    keepsRange_of_within i hwithin, fun hsample => hsample ▸ keepsRange_nextFloat_iff i⟩
  obtain ⟨r, hr⟩ := height_of_draw w hc
  refine ⟨_, (hwithin r).1, (hwithin r).2, ?_⟩
  change (w.heightRandom rules seed min.value max.value).world.board.heights.get? c = _
  rw [(heightRandom_eq i hboard).2]
  exact hr

/-- The ends 1 and 4 are rounded to themselves: all heights are between them, whatever the seed. -/
theorem heights_in_range_one_to_four :
    ∃ (rules : Rules) (w : World), w.board.cells.length = 20 ∧
      ∀ seed, (w.step rules (.heightRandom seed (.number 1.0) (.number 4.0))).world.board.HeightsIn
        1.0 4.0 := by
  let rules : Rules := .ofSettings {} 0
  let w : World := (World.empty.step rules (.board 5 4)).world
  have hcells : w.board.cells.length = 20 := Board.length_cellsOf 5 4
  have hboard : w.board.cells ≠ [] := by
    intro h
    rw [h] at hcells
    cases hcells
  have hspan : (Bound.value (.number 4.0) - Bound.value (.number 1.0)).isFinite = true := by
    decide +kernel
  have hle : Bound.value (.number 1.0) ≤ Bound.value (.number 4.0) := by decide +kernel
  obtain ⟨l, h, s, i⟩ := Random.exists_span hspan hle
  obtain ⟨-, hrange, hends, -⟩ :=
    @heights_in_range_iff rules w _ _ hspan hle hboard i.nextFloat_within
  refine ⟨rules, w, hcells, hrange.mpr (hends ?_ ?_)⟩
  · decide +kernel
  · decide +kernel

/-- From a range that is the one number 0.04, the height 0 is made. -/
theorem height_below_range :
    ∃ (rules : Rules) (w : World) (seed : Option UInt64) (min max : Bound) (c : Cell) (x : Float),
      (max.value - min.value).isFinite = true ∧ min.value ≤ max.value ∧
        w.board.contains c = true ∧
        (w.step rules (.heightRandom seed min max)).skipped = none ∧
        (w.step rules (.heightRandom seed min max)).world.board.heights.get? c = some x ∧
        ¬ min.value ≤ x := by
  let rules : Rules := .ofSettings {} 0
  let w : World := (World.empty.step rules (.board 1 1)).world
  refine ⟨rules, w, some 1, .number 0.04, .number 0.04, ⟨0, 0⟩, 0.0, ?_, ?_, ?_, ?_, ?_, ?_⟩
  all_goals decide +kernel

end World

end Tabletop
