import Tabletop.Proofs.Roster
import Tabletop.Proofs.World

/-!
# The roster mirrors the world

The world and the roster follow the same instructions by rules of their own. What they share stays
the same on both sides.

* `Mirrors`: the same definitions, board and grid, and the same tokens in the same order, where a
  fighter stands at once where its token comes to rest.
* `Mirrors.resolve?_eq`: a reference then stands for the same token on both sides.
* `JointChange` lists what one instruction can do to both sides at once; `Mirrors.jointChange`. As
  long as no token is looked for, `SameView` is enough for it.
* `Mirrors.after` is one instruction, `Mirrors.apply` a batch, and `Mirrors.tick` a tick of the
  clock.
-/

namespace Tabletop

/-! ## Places -/

namespace Roster

/-- Where the fighters stand, as points of the board. -/
def places (r : Roster) : List (TokenId × Option (Point Float)) :=
  r.fighters.map fun f => (f.id, some (.ofCell f.position))

theorem places_fst (r : Roster) : r.places.map (·.1) = r.ids := by
  simp [places, ids]

end Roster

/-! ## The relation -/

/-- The world and the roster know the same definitions and have the same board. -/
structure SameView (w : World) (r : Roster) : Prop where
  sprites : w.sprites = r.sprites
  cols : w.board.cols = r.cols
  rows : w.board.rows = r.rows
  grid : w.board.grid = r.grid

/-- The world and the roster are about the same battle. -/
structure Mirrors (w : World) (r : Roster) : Prop where
  places : w.scene.restingPlaces = r.places
  sprites : w.sprites = r.sprites
  cols : w.board.cols = r.cols
  rows : w.board.rows = r.rows
  grid : w.board.grid = r.grid

namespace Mirrors

variable {w : World} {r : Roster}

theorem ids (h : Mirrors w r) : w.scene.ids = r.ids := by
  rw [← Scene.restingPlaces_fst, h.places, Roster.places_fst]

theorem sameView (h : Mirrors w r) : SameView w r := ⟨h.sprites, h.cols, h.rows, h.grid⟩

theorem empty (settings : Settings) : Mirrors .empty (.empty settings) := ⟨rfl, rfl, rfl, rfl, rfl⟩

/-- A reference stands for the same token on both sides. -/
theorem resolve?_eq (h : Mirrors w r) (reference : String) :
    w.resolve? r.settings.byBeginning reference = (r.fighter? reference).map (·.id) := by
  have hbeginning : w.scene.ids.find? (·.beginsWith reference) =
      (r.fighters.find? (·.id.beginsWith reference)).map (·.id) := by
    rw [h.ids, Roster.ids, List.find?_map]
    rfl
  have hexact : ((TokenId.ofText? reference).filter fun id => (w.scene.token? id).isSome) =
      ((TokenId.ofText? reference).bind fun id => r.fighters.find? (·.id == id)).map (·.id) := by
    cases TokenId.ofText? reference with
    | none => rfl
    | some id =>
      rw [Option.bind_some]
      cases hfind : r.fighters.find? (·.id == id) with
      | none =>
        have hdead : id ∉ w.scene.ids := by
          rw [h.ids, Roster.ids, List.mem_map]
          rintro ⟨f, hf, rfl⟩
          exact List.find?_eq_none.mp hfind f hf (beq_self_eq_true _)
        have hnone : (w.scene.token? id).isSome = false := by
          rw [Bool.eq_false_iff, ne_eq, Scene.token?_isSome_iff]
          exact hdead
        exact Option.filter_some_neg hnone
      | some f =>
        obtain rfl : f.id = id := by simpa using List.find?_some hfind
        have hlive : f.id ∈ w.scene.ids := by
          rw [h.ids]
          exact List.mem_map_of_mem (List.mem_of_find?_eq_some hfind)
        exact Option.filter_some_pos (p := fun id => (w.scene.token? id).isSome)
          (Scene.token?_isSome_iff.mpr hlive)
  rw [World.resolve?, Roster.fighter?, Option.orElse_eq_orElse, Option.orElse_eq_or,
    Option.orElse_eq_orElse, Option.orElse_eq_or, Option.map_or, hexact]
  congr 1
  split
  · exact hbeginning
  · rfl

/-! ## Operations on both sides -/

theorem congr (h : Mirrors w r) {w' : World} {r' : Roster}
    (tokens : w'.scene.tokens = w.scene.tokens) (walks : w'.scene.walks = w.scene.walks)
    (fighters : r'.fighters = r.fighters) (sprites : w'.sprites = r'.sprites)
    (cols : w'.board.cols = r'.cols) (rows : w'.board.rows = r'.rows)
    (grid : w'.board.grid = r'.grid) : Mirrors w' r' where
  places := by
    rw [Scene.restingPlaces, tokens, walks, Roster.places, fighters]
    exact h.places
  sprites := sprites
  cols := cols
  rows := rows
  grid := grid

theorem define (h : Mirrors w r) (sprites : List Sprite) :
    Mirrors { w with sprites } { r with sprites } :=
  h.congr rfl rfl rfl rfl h.cols h.rows h.grid

theorem spawn {sprite : Sprite} {stem : String} {attrs : Attributes} {cells : List Cell}
    (h : Mirrors w r) (hwf : w.scene.WellFormed)
    (hroom : TokenId.HaveRoom (World.spawnOn sprite stem attrs w cells).scene.ids) :
    Mirrors (World.spawnOn sprite stem attrs w cells) (r.spawn sprite stem attrs cells) := by
  induction cells generalizing w r with
  | nil => exact h
  | cons cell cells ih =>
    have hnew := World.nextId_not_mem hroom
    rw [World.spawnOn_cons] at hroom ⊢
    rw [Roster.spawn]
    refine ih ⟨?_, h.sprites, h.cols, h.rows, h.grid⟩ (hwf.addToken hnew) hroom
    rw [World.addToken, Scene.restingPlaces_addToken hwf hnew, World.spawn_id,
      World.spawn_position, h.places, World.nextId, h.ids]
    simp [Roster.places, Fighter.spawn, Fighter.withAttributes]

theorem send (h : Mirrors w r) (hwf : w.scene.WellFormed) {walk : Walk Float} {cell : Cell}
    (hend : walk.path.getLast? = some (.ofCell cell)) :
    Mirrors { w with scene := w.scene.setWalk walk }
      { r with
        fighters :=
          updateFirst (·.id == walk.token) ({ · with position := cell }) r.fighters } where
  places := by
    have hdistinct : (r.fighters.map (·.id)).Nodup := by
      have hids := hwf.distinct
      rw [h.ids] at hids
      exact hids
    rw [Scene.restingPlaces_setWalk, h.places, hend, Roster.places, Roster.places,
      updateFirst_eq_map walk.token _ hdistinct]
    simp only [Scene.sentTo, List.map_map]
    refine List.map_congr_left fun f _ => ?_
    by_cases hf : f.id = walk.token
    · simp [hf]
    · simp [hf]
  sprites := h.sprites
  cols := h.cols
  rows := h.rows
  grid := h.grid

theorem remove (h : Mirrors w r) (hwf : w.scene.WellFormed) (id : TokenId) :
    Mirrors { w with scene := w.scene.remove id } (r.remove id) where
  places := by
    rw [Scene.restingPlaces_remove hwf id, h.places]
    simp only [Roster.places, Roster.remove, List.filter_map]
    rfl
  sprites := h.sprites
  cols := h.cols
  rows := h.rows
  grid := h.grid

end Mirrors

/-! ## Instructions -/

/-- Instructions for which both sides look for a token. -/
def Instruction.addresses : Instruction → Bool
  | .state _ | .move .. | .remove _ => true
  | _ => false

/-- What one instruction can do to the tokens of a world and to the fighters of its roster. -/
inductive JointChange (i : Instruction) (w : World) (r : Roster) : World → Roster → Prop where
  | kept {w' : World} {r' : Roster} (tokens : w'.scene.tokens = w.scene.tokens)
      (walks : w'.scene.walks = w.scene.walks) (fighters : r'.fighters = r.fighters)
      (sprites : w'.sprites = r'.sprites) (cols : w'.board.cols = r'.cols)
      (rows : w'.board.rows = r'.rows) (grid : w'.board.grid = r'.grid) : JointChange i w r w' r'
  | spawned (sprite : Sprite) (stem : String) (sprites : List Sprite) (cells : List Cell) :
      JointChange i w r (World.spawnOn sprite stem i.given { w with sprites } cells)
        ({ r with sprites }.spawn sprite stem i.given cells)
  | altered (id : TokenId) :
      JointChange i w r
        { w with scene := { w.scene with
          tokens := updateFirst (·.id == id) (·.withAttributes i.given) w.scene.tokens } }
        { r with fighters := updateFirst (·.id == id) (·.withAttributes i.given) r.fighters }
  | sent (walk : Walk Float) (cell : Cell) (ends : walk.path.getLast? = some (.ofCell cell)) :
      JointChange i w r { w with scene := w.scene.setWalk walk }
        { r with
          fighters :=
            updateFirst (·.id == walk.token) ({ · with position := cell }) r.fighters }
  | removed (id : TokenId) : JointChange i w r { w with scene := w.scene.remove id } (r.remove id)
  | cleared : JointChange i w r { w with scene := w.scene.clearTokens } r.withoutFighters
  | wiped : JointChange i w r .empty (.empty r.settings)

theorem JointChange.mirrors {i : Instruction} {w w' : World} {r r' : Roster}
    (change : JointChange i w r w' r') (h : Mirrors w r) (hwf : w.scene.WellFormed)
    (hroom : TokenId.HaveRoom w'.scene.ids) : Mirrors w' r' := by
  cases change with
  | kept tokens walks fighters sprites cols rows grid =>
    exact h.congr tokens walks fighters sprites cols rows grid
  | spawned sprite stem sprites cells => exact (h.define sprites).spawn hwf hroom
  | altered id =>
    refine ⟨?_, h.sprites, h.cols, h.rows, h.grid⟩
    refine (Scene.restingPlaces_updateFirst (by intro t; rfl) (by intro t; rfl)).trans ?_
    rw [h.places]
    exact (map_updateFirst (by intro f; rfl) r.fighters).symm
  | sent walk cell ends => exact h.send hwf ends
  | removed id => exact h.remove hwf id
  | cleared => exact ⟨rfl, h.sprites, h.cols, h.rows, h.grid⟩
  | wiped => exact .empty r.settings

namespace SameView

variable {w : World} {r : Roster}

theorem unchanged (h : SameView w r) (i : Instruction) : JointChange i w r w r :=
  .kept rfl rfl rfl h.sprites h.cols h.rows h.grid

/-- Neither side follows the instruction. -/
theorem ignored (h : SameView w r) {i : Instruction} (hroster : r.follow i = r) :
    JointChange i w r w (r.follow i) := by
  rw [hroster]
  exact h.unchanged i

theorem place (h : SameView w r) (code : String) (cells : List Cell) :
    JointChange (.place code cells) w r (w.place code cells).world
      (r.follow (.place code cells)) := by
  rw [World.place]
  cases hsprite : Sprite.resolve? w.sprites code with
  | none =>
    refine h.ignored ?_
    rw [h.sprites] at hsprite
    unfold Roster.follow Roster.step
    simp only [Roster.define, hsprite, bind, Except.bind]
  | some found =>
    rw [Roster.follow_place (h.sprites ▸ hsprite)]
    dsimp only
    rw [World.spawn_world]
    exact .spawned found.1 code found.2 cells

theorem board_cells (h : SameView w r) : w.board.cells = Board.cellsOf r.cols r.rows := by
  rw [Board.cells, h.cols, h.rows]

theorem create (h : SameView w r) (attrs : Attributes) (target : Target) :
    JointChange (.create attrs target) w r (w.create attrs target).world
      (r.follow (.create attrs target)) := by
  rw [World.create]
  cases href : attrs.reference? with
  | none =>
    refine h.ignored ?_
    unfold Roster.follow Roster.step
    simp only [Roster.create, href]
  | some reference =>
    dsimp only
    cases hsprite : Sprite.resolve? w.sprites reference with
    | none =>
      refine h.ignored ?_
      rw [h.sprites] at hsprite
      unfold Roster.follow Roster.step
      simp only [Roster.create, href, Roster.define, hsprite, bind, Except.bind]
    | some found =>
      rw [Roster.follow_create href (h.sprites ▸ hsprite)]
      dsimp only
      have hspawned := JointChange.spawned (i := .create attrs target) (w := w) (r := r) found.1
        (attrs.stem?.getD reference) found.2 (r.cellsOf target)
      cases target with
      | cells cells =>
        dsimp only
        rw [World.spawn_world]
        exact hspawned
      | all =>
        dsimp only
        rw [Roster.cellsOf, ← h.board_cells] at hspawned ⊢
        split
        · rename_i hnone
          rw [List.isEmpty_iff.mp hnone] at hspawned ⊢
          exact hspawned
        · rw [World.spawn_world]
          exact hspawned

theorem attack {rules : Rules} (h : SameView w r) (attacker target : String) (kind : AttackKind)
    (speed duration : Option Float) :
    JointChange (.attack attacker target kind speed duration) w r
      (w.attack rules attacker target kind speed duration).world r := by
  refine World.withToken_cases (P := (JointChange _ w r · r)) (h.unchanged _) fun source _ => ?_
  refine World.withToken_cases (P := (JointChange _ w r · r)) (h.unchanged _) fun target _ => ?_
  exact .kept rfl rfl rfl h.sprites h.cols h.rows h.grid

theorem heightRows {rules : Rules} (h : SameView w r) (lines : List String) :
    JointChange (.heightRows lines) w r (w.step rules (.heightRows lines)).world
      (r.follow (.heightRows lines)) := by
  have hcols : (w.heightRows lines).world.board.cols =
      max w.board.cols (Instruction.rowsExtent lines).1 := rfl
  have hrows : (w.heightRows lines).world.board.rows =
      max w.board.rows (Instruction.rowsExtent lines).2 := rfl
  refine .kept rfl rfl rfl h.sprites (hcols.trans ?_) (hrows.trans ?_) h.grid
  · rw [h.cols]
    rfl
  · rw [h.rows]
    rfl

/-- What an instruction does that does not look for a token on both sides. -/
theorem step {rules : Rules} (h : SameView w r) {i : Instruction} (hi : i.addresses = false) :
    JointChange i w r (w.step rules i).world (r.follow i) := by
  cases i with
  | place code cells => exact h.place code cells
  | create attrs target => exact h.create attrs target
  | state attrs => cases hi
  | move id route => cases hi
  | remove id => cases hi
  | attack attacker target kind speed duration => exact h.attack attacker target kind speed duration
  | heightRows lines => exact h.heightRows lines
  | heightRandom seed min max =>
    refine World.heightRandom_cases (P := (JointChange _ w r · r)) (h.unchanged _) fun heights => ?_
    exact .kept rfl rfl rfl h.sprites h.cols h.rows h.grid
  | grid kind size => exact .kept rfl rfl rfl h.sprites h.cols h.rows rfl
  | board cols rows => exact .kept rfl rfl rfl h.sprites rfl rfl h.grid
  | spriteDef code attrs =>
    exact .kept rfl rfl rfl (congrArg (Sprite.upsert · _) h.sprites) h.cols h.rows h.grid
  | initiative value ids =>
    cases value with
    | none => exact .kept rfl rfl rfl h.sprites h.cols h.rows h.grid
    | some value => exact .kept rfl rfl rfl h.sprites h.cols h.rows h.grid
  | clear scope =>
    cases scope with
    | tokens => exact .cleared
    | all => exact .wiped
  | reset => exact .wiped
  | _ => exact .kept rfl rfl rfl h.sprites h.cols h.rows h.grid

/-- The end of a batch leaves the shape of the board as it is. -/
theorem fillFlat (h : SameView w r) : SameView { w with board := w.board.fillFlat } r := by
  refine ⟨h.sprites, ?_, ?_, ?_⟩ <;> rw [Board.fillFlat] <;> split
  · exact h.cols
  · exact h.cols
  · exact h.rows
  · exact h.rows
  · exact h.grid
  · exact h.grid

end SameView

namespace Mirrors

variable {w : World} {r : Roster}

theorem state {rules : Rules} (h : Mirrors w r)
    (hrules : rules.byBeginning = r.settings.byBeginning) (attrs : Attributes) :
    JointChange (.state attrs) w r (w.state rules attrs).world (r.follow (.state attrs)) := by
  rw [World.state]
  cases href : attrs.first? ["id", "token"] with
  | none =>
    refine h.sameView.ignored ?_
    unfold Roster.follow Roster.step
    simp only [href]
  | some reference =>
    dsimp only
    rw [World.withToken, hrules, h.resolve?_eq]
    cases hf : r.fighter? reference with
    | none =>
      refine h.sameView.ignored ?_
      unfold Roster.follow Roster.step
      simp only [href, Roster.change, hf]
    | some f =>
      rw [Roster.follow_state href hf, Option.map_some]
      exact .altered f.id

/-- A walk leads to the cell that its route names last. -/
theorem getLast?_walkOf? {position : Point Float} {route : Route} {path : List (Point Float)}
    {index : Nat} (h : World.walkOf? position route = some (path, index)) :
    ∃ cell, route.destination? = some cell ∧ path.getLast? = some (.ofCell cell) := by
  unfold World.walkOf? at h
  split at h
  · rename_i cell
    cases h
    exact ⟨cell, rfl, rfl⟩
  · cases h
  · rename_i cells hne
    cases h
    cases hlast : cells.getLast? with
    | none => exact absurd (List.getLast?_eq_none_iff.mp hlast) hne
    | some cell =>
      refine ⟨cell, hlast, ?_⟩
      rw [List.getLast?_map, hlast]
      rfl

theorem destination?_of_walkOf?_eq_none {position : Point Float} {route : Route}
    (h : World.walkOf? position route = none) : route.destination? = none :=
  List.getLast?_eq_none_iff.mpr (World.walkOf?_eq_none_iff.mp h)

theorem move {rules : Rules} (h : Mirrors w r)
    (hrules : rules.byBeginning = r.settings.byBeginning) (reference : String) (route : Route) :
    JointChange (.move reference route) w r (w.move rules reference route).world
      (r.follow (.move reference route)) := by
  have hresolve := h.resolve?_eq reference
  rw [World.move, World.withToken, hrules, hresolve]
  cases hf : r.fighter? reference with
  | none =>
    refine h.sameView.ignored ?_
    unfold Roster.follow Roster.step
    simp only [Roster.change, hf]
    cases route.destination? <;> rfl
  | some f =>
    rw [hf] at hresolve
    have hlive : f.id ∈ w.scene.ids := World.resolve?_mem hresolve
    dsimp only [Option.map_some]
    cases htoken : w.scene.token? f.id with
    | none =>
      have hsome := Scene.token?_isSome_iff.mpr hlive
      rw [htoken] at hsome
      cases hsome
    | some token =>
      dsimp only
      cases hwalk : World.walkOf? token.position route with
      | none =>
        refine h.sameView.ignored ?_
        unfold Roster.follow Roster.step
        simp only [destination?_of_walkOf?_eq_none hwalk]
      | some walk =>
        obtain ⟨path, index⟩ := walk
        obtain ⟨cell, hcell, hend⟩ := getLast?_walkOf? hwalk
        rw [Roster.follow_move hcell hf]
        exact .sent ⟨f.id, path, index, _⟩ cell hend

theorem removeStep {rules : Rules} (h : Mirrors w r)
    (hrules : rules.byBeginning = r.settings.byBeginning) (reference : String) :
    JointChange (.remove reference) w r (w.step rules (.remove reference)).world
      (r.follow (.remove reference)) := by
  rw [World.step, World.withToken, hrules, h.resolve?_eq]
  cases hf : r.fighter? reference with
  | none =>
    refine h.sameView.ignored ?_
    unfold Roster.follow Roster.step
    simp only [hf]
  | some f =>
    have hroster : r.follow (.remove reference) = r.remove f.id := by
      unfold Roster.follow Roster.step
      simp only [hf]
    rw [hroster]
    exact .removed f.id

theorem step {rules : Rules} (h : Mirrors w r)
    (hrules : rules.byBeginning = r.settings.byBeginning) (i : Instruction) :
    JointChange i w r (w.step rules i).world (r.follow i) := by
  cases i with
  | state attrs => exact h.state hrules attrs
  | move id route => exact h.move hrules id route
  | remove id => exact h.removeStep hrules id
  | _ => exact h.sameView.step rfl

theorem jointChange {rules : Rules} (h : Mirrors w r)
    (hrules : rules.byBeginning = r.settings.byBeginning) (i : Instruction) :
    JointChange i w r (w.after rules i) (r.follow i) := by
  rw [World.after_eq_step]
  exact h.step hrules i

theorem after {rules : Rules} (h : Mirrors w r) (hwf : w.scene.WellFormed)
    (hrules : rules.byBeginning = r.settings.byBeginning) (i : Instruction)
    (hroom : TokenId.HaveRoom (w.after rules i).scene.ids) :
    Mirrors (w.after rules i) (r.follow i) :=
  (h.jointChange hrules i).mirrors h hwf hroom

end Mirrors

/-! ## Batches and ticks -/

namespace Mirrors

variable {w : World} {r : Roster}

theorem run {rules : Rules} {batch : List Instruction} (h : Mirrors w r)
    (hwf : w.scene.WellFormed) (hrules : rules.byBeginning = r.settings.byBeginning)
    (hroom : w.StaysRoomy rules batch) :
    Mirrors (World.run rules w batch).1 (r.apply batch).1 := by
  rw [Roster.apply_eq_foldl]
  induction batch generalizing w r with
  | nil => exact h
  | cons i batch ih =>
    rw [World.run_cons, List.foldl_cons]
    have hwf' := (World.change_after rules w i).wellFormed hwf hroom.head
    refine ih (h.after hwf hrules i hroom.head) hwf' ?_ hroom.tail
    rw [hrules, Roster.follow_settings]

theorem apply {rules : Rules} {batch : List Instruction} (h : Mirrors w r)
    (hwf : w.scene.WellFormed) (hrules : rules.byBeginning = r.settings.byBeginning)
    (hroom : w.StaysRoomy rules batch) :
    Mirrors (w.apply rules batch).1 (r.apply batch).1 := by
  cases batch with
  | nil => exact h
  | cons i batch =>
    have hrun := h.run hwf hrules hroom
    rw [World.apply_of_ne_nil (List.cons_ne_nil i batch)]
    have hview := hrun.sameView.fillFlat
    exact hrun.congr rfl rfl rfl hview.sprites hview.cols hview.rows hview.grid

theorem tick (h : Mirrors w r) (hwf : w.scene.WellFormed) (c : Clock Float) (seconds : Float) :
    Mirrors (w.tick c seconds).1 r where
  places := (Scene.restingPlaces_tick hwf c seconds).trans h.places
  sprites := h.sprites
  cols := h.cols
  rows := h.rows
  grid := h.grid

end Mirrors

end Tabletop
