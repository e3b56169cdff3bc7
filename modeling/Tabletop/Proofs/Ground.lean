import Tabletop.Proofs.Dict
import Tabletop.Proofs.World

/-!
# The ground of a board

At the end of a batch a board without heights gets height zero in every cell. These heights are not
the work of an instruction: which cells have them depends on where one batch ends and the next one
begins.

* `World.laid` are the heights that an instruction writes, and `World.step_setHeights` says that it
  treats heights in no other way, unless it takes all of them away.
* A `Site` is the world that the instructions alone lead to, apart from the ground that the ends of
  batches have laid. `Site.Shows` says which world that is, and `Site.shows_of` that batches lead
  there.
* `Site.Shows.eq_iff`: two worlds from the same instructions are equal exactly if the ground is the
  same in all cells without a height of their own.
-/

namespace Tabletop

namespace World

/-! ## Heights -/

def setHeights (w : World) (heights : Dict Cell Float) : World :=
  { w with board := { w.board with heights } }

theorem setHeights_self (w : World) : w.setHeights w.board.heights = w := rfl

/-- The heights of random terrain, where it can be drawn at all. -/
def randomHeights (rules : Rules) (w : World) (seed : Option UInt64) (low high : Float) :
    List (Cell × Float) :=
  if !(high - low).isFinite || low > high then []
  else if w.board.cells.isEmpty then []
  else drawHeights rules.sample low high ⟨seed.getD rules.clockSeed⟩ w.board.cells

/-- The heights that an instruction writes. -/
def laid (rules : Rules) (w : World) : Instruction → List (Cell × Float)
  | .height cells => cells.map fun h => (h.cell, h.value)
  | .heightRaw text => (heightPairs rules.rowBase text).1
  | .heightRows rows => (rows.mapIdx heightRow).flatMap (·.1)
  | .heightRandom seed min max => randomHeights rules w seed min.value max.value
  | _ => []

theorem spawnOn_setHeights (sprite : Sprite) (stem : String) (attrs : Attributes) (w : World)
    (heights : Dict Cell Float) (cells : List Cell) :
    spawnOn sprite stem attrs (w.setHeights heights) cells =
      (spawnOn sprite stem attrs w cells).setHeights heights := by
  induction cells generalizing w with
  | nil => rfl
  | cons cell cells ih => exact ih (w.addToken _)

theorem spawn_setHeights (sprite : Sprite) (stem : String) (attrs : Attributes) (w : World)
    (heights : Dict Cell Float) (cells : List Cell) :
    (spawn sprite stem attrs (w.setHeights heights) cells).world =
      (spawn sprite stem attrs w cells).world.setHeights heights := by
  rw [spawn, spawn]
  split
  · rfl
  · exact spawnOn_setHeights sprite stem attrs w heights cells

theorem place_setHeights (w : World) (heights : Dict Cell Float) (code : String)
    (cells : List Cell) :
    ((w.setHeights heights).place code cells).world =
      (w.place code cells).world.setHeights heights := by
  have hsprites : (w.setHeights heights).sprites = w.sprites := rfl
  rw [place, place, hsprites]
  cases Sprite.resolve? w.sprites code with
  | none => rfl
  | some found => exact spawn_setHeights _ _ _ { w with sprites := found.2 } heights cells

theorem create_setHeights (w : World) (heights : Dict Cell Float) (attrs : Attributes)
    (target : Target) :
    ((w.setHeights heights).create attrs target).world =
      (w.create attrs target).world.setHeights heights := by
  have hsprites : (w.setHeights heights).sprites = w.sprites := rfl
  have hcells : (w.setHeights heights).board.cells = w.board.cells := rfl
  rw [create, create, hsprites]
  cases attrs.reference? with
  | none => rfl
  | some reference =>
    dsimp only
    cases Sprite.resolve? w.sprites reference with
    | none => rfl
    | some found =>
      cases target with
      | cells cells => exact spawn_setHeights _ _ _ { w with sprites := found.2 } heights cells
      | all =>
        dsimp only
        rw [hcells]
        split
        · rfl
        · exact spawn_setHeights _ _ _ { w with sprites := found.2 } heights _

/-- What follows a look-up follows it just so with other heights. -/
theorem withToken_setHeights (rules : Rules) (w : World) (heights : Dict Cell Float)
    (reference : String) {f g : TokenId → Step}
    (h : ∀ id, (f id).world = (g id).world.setHeights heights) :
    ((w.setHeights heights).withToken rules reference f).world =
      (w.withToken rules reference g).world.setHeights heights := by
  have hresolve : (w.setHeights heights).resolve? rules.byBeginning reference =
      w.resolve? rules.byBeginning reference := rfl
  rw [withToken, withToken, hresolve]
  cases w.resolve? rules.byBeginning reference with
  | none => rfl
  | some id => exact h id

theorem state_setHeights (rules : Rules) (w : World) (heights : Dict Cell Float)
    (attrs : Attributes) :
    ((w.setHeights heights).state rules attrs).world =
      (w.state rules attrs).world.setHeights heights := by
  rw [state, state]
  cases attrs.first? ["id", "token"] with
  | none => rfl
  | some reference => exact withToken_setHeights rules w heights reference fun _ => rfl

theorem move_setHeights (rules : Rules) (w : World) (heights : Dict Cell Float)
    (reference : String) (route : Route) :
    ((w.setHeights heights).move rules reference route).world =
      (w.move rules reference route).world.setHeights heights := by
  refine withToken_setHeights rules w heights reference fun id => ?_
  have htoken : (w.setHeights heights).scene.token? id = w.scene.token? id := rfl
  rw [htoken]
  cases w.scene.token? id with
  | none => rfl
  | some token =>
    dsimp only
    cases walkOf? token.position route with
    | none => rfl
    | some walk => rfl

theorem heightRandom_setHeights (rules : Rules) (w : World) (heights : Dict Cell Float)
    (seed : Option UInt64) (low high : Float) :
    ((w.setHeights heights).heightRandom rules seed low high).world =
      (w.heightRandom rules seed low high).world.setHeights
        (heights.insertAll (randomHeights rules w seed low high)) := by
  have hcells : (w.setHeights heights).board.cells = w.board.cells := rfl
  unfold heightRandom randomHeights
  rw [hcells]
  split
  · rw [Dict.insertAll_nil]
    rfl
  · split
    · rw [Dict.insertAll_nil]
      rfl
    · rfl

/-- Where nothing is written the heights stay as they are. -/
theorem setHeights_of_nothing {w v : World} {heights : Dict Cell Float}
    (h : w = v.setHeights heights) : w = v.setHeights (heights.insertAll []) := by
  rw [Dict.insertAll_nil]
  exact h

/-- An instruction that does not take all heights away adds what it writes, to whatever heights
there are, and looks at none of them. -/
theorem step_setHeights (rules : Rules) (w : World) (heights : Dict Cell Float) {i : Instruction}
    (hwipe : i.wipesWorld = false) (hraze : i ≠ .removeHeightmap) :
    ((w.setHeights heights).step rules i).world =
      (w.step rules i).world.setHeights (heights.insertAll (laid rules w i)) := by
  cases i with
  | height cells => rfl
  | heightRaw text => rfl
  | heightRows rows => rfl
  | heightRandom seed min max => exact heightRandom_setHeights rules w heights seed _ _
  | removeHeightmap => exact absurd rfl hraze
  | reset => cases hwipe
  | place code cells => exact setHeights_of_nothing (place_setHeights w heights code cells)
  | create attrs target => exact setHeights_of_nothing (create_setHeights w heights attrs target)
  | state attrs => exact setHeights_of_nothing (state_setHeights rules w heights attrs)
  | move id route => exact setHeights_of_nothing (move_setHeights rules w heights id route)
  | attack attacker target kind speed duration =>
    refine setHeights_of_nothing (withToken_setHeights rules w heights attacker fun _ => ?_)
    exact withToken_setHeights rules w heights target fun _ => rfl
  | remove id =>
    exact setHeights_of_nothing (withToken_setHeights rules w heights id fun _ => rfl)
  | clear scope =>
    cases scope with
    | tokens => exact setHeights_of_nothing rfl
    | all => cases hwipe
  | _ => exact setHeights_of_nothing rfl

/-- Only the instruction that takes the heights away keeps a board without them. -/
theorem step_staysFlat (rules : Rules) (w : World) {i : Instruction}
    (hwipe : i.wipesWorld = false) (hraze : i ≠ .removeHeightmap) :
    (w.step rules i).world.board.staysFlat = w.board.staysFlat := by
  let Kept (w' : World) : Prop := w'.board.staysFlat = w.board.staysFlat
  have hspawn : ∀ sprite stem attrs sprites cells,
      Kept (spawnOn sprite stem attrs { w with sprites } cells) := by
    intro sprite stem attrs sprites cells
    exact congrArg Board.staysFlat (spawnOn_frame sprite stem attrs { w with sprites } cells).1
  cases i with
  | place code cells => exact place_cases (P := Kept) rfl fun _ _ _ => hspawn _ _ _ _ _
  | create attrs target =>
    exact create_cases (P := Kept) rfl fun _ _ _ _ _ _ _ => hspawn _ _ _ _ _
  | heightRandom seed min max => exact heightRandom_cases (P := Kept) rfl fun _ => rfl
  | state attrs => exact state_cases (P := Kept) rfl fun _ => rfl
  | move id route => exact move_cases (P := Kept) rfl fun _ _ _ _ => rfl
  | attack attacker target kind speed duration =>
    exact attack_cases (P := Kept) rfl fun _ _ _ _ _ _ _ => rfl
  | remove id => exact withToken_cases (P := Kept) rfl fun _ _ => rfl
  | removeHeightmap => exact absurd rfl hraze
  | reset => cases hwipe
  | clear scope =>
    cases scope with
    | tokens => rfl
    | all => cases hwipe
  | _ => rfl

end World

/-! ## Sites -/

/-- The world that instructions lead to, and the cells that the end of a batch has laid flat since
the last wipe. -/
structure Site where
  bare : World
  ground : List Cell

namespace Site

def empty : Site := ⟨.empty, []⟩

def after (rules : Rules) (s : Site) (i : Instruction) : Site :=
  ⟨s.bare.after rules i, if i.wipesWorld then [] else s.ground⟩

/-- The end of a batch lays the board, if it has no heights and no ground so far and does not stay
without them. -/
def close (s : Site) : Site :=
  if s.ground.isEmpty && s.bare.board.heights.isEmpty && !s.bare.board.staysFlat then
    { s with ground := s.bare.board.cells }
  else s

def apply (rules : Rules) (s : Site) (batch : List Instruction) : Site :=
  if batch.isEmpty then s else (batch.foldl (after rules) s).close

/-- The site that batches lead to, one after another. -/
def of (rules : Rules) (batches : List (List Instruction)) : Site :=
  batches.foldl (apply rules) empty

/-- The height that an instruction has given to a cell, or that of the ground. -/
def height? (s : Site) (c : Cell) : Option Float :=
  (s.bare.board.heights.get? c).or
    (if s.bare.board.staysFlat = false ∧ c ∈ s.ground then some 0.0 else none)

/-- The world of a site. -/
structure Shows (s : Site) (w : World) : Prop where
  same : w = s.bare.setHeights w.board.heights
  heights : ∀ c, w.board.heights.get? c = s.height? c

theorem shows_empty : Shows empty .empty := ⟨rfl, fun _ => rfl⟩

section Steps

variable {rules : Rules} {s : Site} {w : World}

theorem Shows.after (h : Shows s w) (i : Instruction) :
    Shows (s.after rules i) (w.after rules i) := by
  cases hwipe : i.wipesWorld with
  | true =>
    have hw : w.after rules i = .empty := World.after_of_wipe rules w hwipe
    have hs : s.after rules i = empty := by
      rw [Site.after, World.after_of_wipe rules s.bare hwipe, if_pos hwipe]
      rfl
    rw [hw, hs]
    exact shows_empty
  | false =>
    have hground : (s.after rules i).ground = s.ground := if_neg (by simp [hwipe])
    by_cases hraze : i = .removeHeightmap
    · subst hraze
      refine ⟨?_, fun c => ?_⟩
      · rw [World.after_eq_step, Site.after, World.after_eq_step, h.same]
        rfl
      · rfl
    · have hstep := World.step_setHeights rules s.bare w.board.heights hwipe hraze
      have hbare := World.step_setHeights rules s.bare s.bare.board.heights hwipe hraze
      rw [← h.same] at hstep
      rw [World.setHeights_self] at hbare
      have hflat := World.step_staysFlat rules s.bare hwipe hraze
      have hboard : (w.step rules i).world.board.heights =
          w.board.heights.insertAll (World.laid rules s.bare i) := by rw [hstep]; rfl
      have hboard' : (s.bare.step rules i).world.board.heights =
          s.bare.board.heights.insertAll (World.laid rules s.bare i) := by rw [hbare]; rfl
      refine ⟨?_, fun c => ?_⟩
      · rw [World.after_eq_step, Site.after, World.after_eq_step, hboard]
        exact hstep
      · rw [height?, hground, Site.after, World.after_eq_step, World.after_eq_step, hflat, hboard,
          hboard', Dict.get?_insertAll, Dict.get?_insertAll, h.heights, height?, Option.or_assoc]

theorem Shows.run (h : Shows s w) (batch : List Instruction) :
    Shows (batch.foldl (Site.after rules) s) (World.run rules w batch).1 := by
  rw [World.run_eq_foldl]
  induction batch generalizing s w with
  | nil => exact h
  | cons i batch ih => exact ih (h.after i)

/-- A board without heights has no ground either. -/
theorem Shows.isEmpty_iff (h : Shows s w) (hflat : s.bare.board.staysFlat = false) :
    w.board.heights.isEmpty = (s.ground.isEmpty && s.bare.board.heights.isEmpty) := by
  rw [Bool.eq_iff_iff, Bool.and_eq_true, Dict.isEmpty_iff, Dict.isEmpty_iff, List.isEmpty_iff]
  constructor
  · intro hnone
    have hboth : ∀ c, s.bare.board.heights.get? c = none ∧ c ∉ s.ground := fun c => by
      have hc := hnone c
      rw [h.heights, height?, Option.or_eq_none_iff] at hc
      refine ⟨hc.1, fun hmem => ?_⟩
      rw [if_pos ⟨hflat, hmem⟩] at hc
      cases hc.2
    exact ⟨List.eq_nil_iff_forall_not_mem.mpr fun c => (hboth c).2, fun c => (hboth c).1⟩
  · rintro ⟨hground, hbare⟩ c
    rw [h.heights, height?, hbare c, hground, if_neg (by simp)]
    rfl

theorem Shows.close (h : Shows s w) :
    Shows s.close { w with board := w.board.fillFlat } := by
  have hcells : w.board.cells = s.bare.board.cells := by rw [h.same]; rfl
  have hsame : w.board.staysFlat = s.bare.board.staysFlat := by rw [h.same]; rfl
  cases hflat : s.bare.board.staysFlat with
  | true =>
    have hclose : s.close = s := if_neg (by simp [hflat])
    have hfill : w.board.fillFlat = w.board := if_neg (by simp [hsame, hflat])
    rw [hclose, hfill]
    exact h
  | false =>
    have hempty := h.isEmpty_iff hflat
    cases hbare : s.ground.isEmpty && s.bare.board.heights.isEmpty with
    | false =>
      have hclose : s.close = s := if_neg (by rw [hbare]; simp)
      have hfill : w.board.fillFlat = w.board := if_neg (by rw [hempty, hbare]; simp)
      rw [hclose, hfill]
      exact h
    | true =>
      have hclose : s.close = { s with ground := s.bare.board.cells } :=
        if_pos (by rw [hbare, hflat]; rfl)
      have hfill : w.board.fillFlat =
          { w.board with heights := w.board.heights.insertAll (w.board.cells.map (·, 0.0)) } :=
        if_pos (by rw [hempty, hbare, hsame, hflat]; rfl)
      have hnone : ∀ c, w.board.heights.get? c = none := Dict.isEmpty_iff.mp (hempty.trans hbare)
      have hnone' : ∀ c, s.bare.board.heights.get? c = none :=
        Dict.isEmpty_iff.mp (Bool.and_eq_true_iff.mp hbare).2
      rw [hclose, hfill]
      refine ⟨?_, fun c => ?_⟩
      · dsimp only
        rw [h.same]
        rfl
      · rw [height?]
        dsimp only
        rw [Dict.get?_insertAll_const, hnone, hnone', hcells, hflat]
        simp

theorem Shows.apply (h : Shows s w) (batch : List Instruction) :
    Shows (s.apply rules batch) (w.apply rules batch).1 := by
  cases batch with
  | nil => exact h
  | cons i batch =>
    rw [World.apply_of_ne_nil (List.cons_ne_nil i batch)]
    exact (h.run (i :: batch)).close

end Steps

/-- Batches lead to the world of their site. -/
theorem shows_of (rules : Rules) (batches : List (List Instruction)) :
    (of rules batches).Shows (World.replay rules batches) := by
  have hfoldl : ∀ (batches : List (List Instruction)) (s : Site) (w : World), s.Shows w →
      (batches.foldl (Site.apply rules) s).Shows
        (batches.foldl (fun w batch => (w.apply rules batch).1) w) := by
    intro batches
    induction batches with
    | nil => exact fun _ _ h => h
    | cons batch batches ih => exact fun s w h => ih _ _ (h.apply batch)
  exact hfoldl batches .empty .empty shows_empty

/-! ## Worlds from the same instructions -/

theorem close_bare (s : Site) : s.close.bare = s.bare := by
  rw [close]
  split
  · rfl
  · rfl

theorem apply_bare (rules : Rules) (s : Site) (batch : List Instruction) :
    (s.apply rules batch).bare = (World.run rules s.bare batch).1 := by
  have hfoldl : ∀ batch : List Instruction,
      (batch.foldl (after rules) s).bare = (World.run rules s.bare batch).1 := by
    intro batch
    rw [World.run_eq_foldl]
    induction batch generalizing s with
    | nil => rfl
    | cons i batch ih => exact ih (s.after rules i)
  rw [apply]
  split
  · rename_i hempty
    rw [List.isEmpty_iff.mp hempty]
    rfl
  · rw [close_bare, hfoldl]

/-- How instructions are divided into batches matters for the ground alone. -/
theorem of_bare (rules : Rules) (batches : List (List Instruction)) :
    (of rules batches).bare = (World.run rules .empty batches.flatten).1 := by
  have hfoldl : ∀ (batches : List (List Instruction)) (s : Site),
      (batches.foldl (apply rules) s).bare = (World.run rules s.bare batches.flatten).1 := by
    intro batches
    induction batches with
    | nil => exact fun _ => rfl
    | cons batch batches ih =>
      intro s
      rw [List.foldl_cons, ih, apply_bare, List.flatten_cons, World.run_append]
  exact hfoldl batches empty

/-- The ground has the height that a cell without a height has anyway. -/
theorem Shows.heightAt {s : Site} {w : World} (h : Shows s w) (c : Cell) :
    w.board.heightAt c = s.bare.board.heightAt c := by
  rw [Board.heightAt, Board.heightAt, h.heights, height?]
  cases s.bare.board.heights.get? c with
  | some x => rfl
  | none =>
    rw [Option.none_or]
    split
    · rfl
    · rfl

theorem Shows.eq_iff {s s' : Site} {w w' : World} (h : Shows s w) (h' : Shows s' w')
    (hbare : s'.bare = s.bare) :
    w' = w ↔ s.bare.board.staysFlat = true ∨
      ∀ c, s.bare.board.heights.get? c = none → (c ∈ s'.ground ↔ c ∈ s.ground) := by
  constructor
  · intro heq
    refine (Bool.eq_false_or_eq_true s.bare.board.staysFlat).imp id fun hflat c hc => ?_
    have hheight : s'.height? c = s.height? c := by rw [← h'.heights, ← h.heights, heq]
    rw [height?, height?, hbare, hc, Option.none_or, Option.none_or, hflat] at hheight
    by_cases hmem : c ∈ s.ground
    · by_cases hmem' : c ∈ s'.ground
      · exact iff_of_true hmem' hmem
      · simp [hmem, hmem'] at hheight
    · by_cases hmem' : c ∈ s'.ground
      · simp [hmem, hmem'] at hheight
      · exact iff_of_false hmem' hmem
  · intro hcondition
    have hheights : w'.board.heights = w.board.heights := by
      refine Dict.ext_get? fun c => ?_
      rw [h'.heights, h.heights, height?, height?, hbare]
      rcases hcondition with hflat | hground
      · rw [hflat]
        simp
      · cases hc : s.bare.board.heights.get? c with
        | some x => rfl
        | none => simp only [hground c hc]
    rw [h'.same, h.same, hbare, hheights]

end Site

end Tabletop
