import Mathlib.Data.List.Nodup
import Tabletop.Console.Session
import Tabletop.Proofs.Mirror

/-!
# Sessions keep their roster in step

A session gives every batch to its world and to its roster, the clock moves the world alone, and a
turn changes the roster alone. Whatever the order, both stay about the same battle.

* `Session.Reachable`: the sessions that batches, ticks, suggestions, turns and picks lead to.
* `Session.InStep` is what all of them have in common; each operation preserves it.
* The agreement is spelled out for tokens, definitions, board and places at the end.
-/

namespace Tabletop

/-! ## Places on both sides -/

/-- Where tokens and fighters have the same places, a fighter stands where its token comes to
rest. -/
theorem Mirrors.restingPlace_eq {w : World} {r : Roster} (h : Mirrors w r)
    (hdistinct : w.scene.ids.Nodup) {t : Token Float} {f : Fighter} (ht : t ∈ w.scene.tokens)
    (hf : f ∈ r.fighters) (hid : f.id = t.id) :
    Scene.restingPlace w.scene.walks t = some (.ofCell f.position) := by
  have hplace : (t.id, Scene.restingPlace w.scene.walks t) ∈ r.places := by
    rw [← h.places]
    exact List.mem_map_of_mem ht
  obtain ⟨f', hf', hpair⟩ := List.mem_map.mp hplace
  obtain ⟨hid', hposition⟩ := Prod.mk.inj hpair
  have hfighters : (r.fighters.map (·.id)).Nodup := by
    rw [h.ids] at hdistinct
    exact hdistinct
  obtain rfl : f' = f := List.inj_on_of_nodup_map hfighters hf' hf (hid'.trans hid.symm)
  exact hposition.symm

/-! ## What suggestions lead to -/

namespace World

theorem after_ids_move (rules : Rules) (w : World) (reference : String) (route : Route) :
    (w.after rules (.move reference route)).scene.ids = w.scene.ids :=
  move_cases (P := fun w' => w'.scene.ids = w.scene.ids) rfl fun _ _ _ _ => rfl

theorem after_ids_attack (rules : Rules) (w : World) (attacker target : String)
    (kind : AttackKind) (speed duration : Option Float) :
    (w.after rules (.attack attacker target kind speed duration)).scene.ids = w.scene.ids :=
  attack_cases (P := fun w' => w'.scene.ids = w.scene.ids) rfl fun _ _ _ _ _ _ _ => rfl

/-- A batch of one instruction that brings no token needs no room. -/
theorem staysRoomy_singleton {rules : Rules} {w : World} {i : Instruction}
    (h : TokenId.HaveRoom w.scene.ids) (hids : (w.after rules i).scene.ids = w.scene.ids) :
    w.StaysRoomy rules [i] := by
  intro done hdone
  rcases List.prefix_cons_iff.mp hdone with rfl | ⟨rest, rfl, hrest⟩
  · exact h
  · rw [List.prefix_nil.mp hrest, run_cons, run_eq_foldl, List.foldl_nil, hids]
    exact h

theorem staysRoomy_nil {rules : Rules} {w : World} (h : TokenId.HaveRoom w.scene.ids) :
    w.StaysRoomy rules [] := by
  intro done hdone
  rw [List.prefix_nil.mp hdone]
  exact h

end World

namespace Roster

/-- What an intent comes to is nothing, one move or one attack. -/
theorem instructionsFor_cases (r : Roster) (intent : Intent) {P : List Instruction → Prop}
    (hnone : P []) (hmove : ∀ reference route, P [.move reference route])
    (hattack : ∀ attacker target kind, P [.attack attacker target kind none none]) :
    P (r.instructionsFor intent) := by
  have htoward : ∀ reference goal, P (r.moveToward reference goal) := by
    intro reference goal
    unfold moveToward
    split
    · exact hnone
    · dsimp only
      split
      · exact hnone
      · exact hmove _ _
  cases intent with
  | moveToCell token cell => exact htoward token cell
  | moveToward token target =>
    rw [instructionsFor]
    split
    · exact htoward token _
    · exact hnone
  | attack attacker target attack =>
    rw [instructionsFor]
    split
    · exact hattack _ _ _
    · exact hnone
  | defend token => exact hnone
  | endTurn token => exact hnone

theorem staysRoomy_instructionsFor {rules : Rules} {w : World} (r : Roster) (intent : Intent)
    (h : TokenId.HaveRoom w.scene.ids) : w.StaysRoomy rules (r.instructionsFor intent) :=
  r.instructionsFor_cases intent (World.staysRoomy_nil h)
    (fun _ _ => World.staysRoomy_singleton h (World.after_ids_move _ _ _ _))
    (fun _ _ _ => World.staysRoomy_singleton h (World.after_ids_attack _ _ _ _ _ _ _))

end Roster

namespace Console.Session

/-! ## Picks -/

/-- A pick carries out a suggestion or changes nothing. -/
theorem pick_cases (s : Session) (around : Surroundings) (number : String) {P : Session → Prop}
    (hsame : P s) (hcarry : ∀ x, P (s.carryOut around x).1) : P (s.pick around number).1 := by
  rw [pick]
  split
  · exact hsame
  · split
    · exact hsame
    · exact hcarry _

/-- A suggestion comes to a batch and perhaps to the next turn, and is gone afterwards. -/
theorem carryOut_cases (s : Session) (around : Surroundings) (x : Suggestion) {P : Session → Prop}
    (hcommit : P (s.commit around (s.roster.instructionsFor x.intent)).1)
    (hturn : ∀ s, P s → P (s.nextTurn around.colored).1)
    (hforget : ∀ s, P s → P { s with advice := none }) : P (s.carryOut around x).1 := by
  have hconclude : ∀ s' intent, P s' → P (s'.conclude around.colored intent).1 := by
    intro s' intent h
    cases intent with
    | endTurn token => exact hturn s' h
    | _ => exact h
  exact hforget _ (hconclude _ _ hcommit)

/-! ## Runs of a session -/

/-- The sessions that a table can get to, as long as no token ever gets the last number that there
is. -/
inductive Reachable : Session → Prop where
  | start (settings : Settings) (token : RefreshToken) : Reachable (.start settings token)
  | commit {s : Session} (around : Surroundings) (batch : List Instruction) (h : Reachable s)
      (room : s.world.StaysRoomy (.ofSettings s.settings around.clockSeed) batch) :
      Reachable (s.commit around batch).1
  | tick {s : Session} (colored : Bool) (seconds : Float) (h : Reachable s) :
      Reachable (s.tickFor colored seconds).1
  | suggest {s : Session} (colored : Bool) (h : Reachable s) : Reachable (s.suggest colored).1
  | nextTurn {s : Session} (colored : Bool) (h : Reachable s) : Reachable (s.nextTurn colored).1
  | pick {s : Session} (around : Surroundings) (number : String) (h : Reachable s) :
      Reachable (s.pick around number).1

/-! ## The invariant -/

/-- The world and the roster of a session are about the same battle, by the same settings. -/
structure InStep (s : Session) : Prop where
  settings : s.roster.settings = s.settings
  wellFormed : s.world.scene.WellFormed
  room : TokenId.HaveRoom s.world.scene.ids
  mirrors : Mirrors s.world s.roster

namespace InStep

variable {s : Session}

theorem start (settings : Settings) (token : RefreshToken) :
    InStep (Session.start settings token) where
  settings := rfl
  wellFormed := Scene.wellFormed_empty
  room := by
    intro id hid
    cases hid
  mirrors := .empty settings

/-- Journal and suggestions have no part in it. -/
theorem congr (h : InStep s) {s' : Session} (settings : s'.settings = s.settings)
    (world : s'.world = s.world) (roster : s'.roster = s.roster) : InStep s' where
  settings := by rw [settings, roster, h.settings]
  wellFormed := world ▸ h.wellFormed
  room := world ▸ h.room
  mirrors := by
    rw [world, roster]
    exact h.mirrors

theorem commit (h : InStep s) (around : Surroundings) {batch : List Instruction}
    (room : s.world.StaysRoomy (.ofSettings s.settings around.clockSeed) batch) :
    InStep (s.commit around batch).1 := by
  rw [Session.commit]
  split
  · exact h
  · have hrules : (Rules.ofSettings s.settings around.clockSeed).byBeginning =
        s.roster.settings.byBeginning := by
      rw [h.settings]
      rfl
    refine ⟨?_, World.wellFormed_apply h.wellFormed room, ?_,
      h.mirrors.apply h.wellFormed hrules room⟩
    · exact (Roster.apply_settings s.roster batch).trans h.settings
    · dsimp only
      rw [Scene.ids, World.apply_scene]
      exact room batch (List.prefix_refl batch)

theorem tickFor (h : InStep s) (colored : Bool) (seconds : Float) :
    InStep (s.tickFor colored seconds).1 where
  settings := h.settings
  wellFormed := h.wellFormed.tick _ seconds
  room := by
    have hmirrors := h.mirrors.tick h.wellFormed (.ofSettings s.settings.animation) seconds
    have hids : (s.tickFor colored seconds).1.world.scene.ids = s.world.scene.ids :=
      hmirrors.ids.trans h.mirrors.ids.symm
    rw [hids]
    exact h.room
  mirrors := h.mirrors.tick h.wellFormed _ seconds

theorem nextTurn (h : InStep s) (colored : Bool) : InStep (s.nextTurn colored).1 := by
  have hturn : InStep { s with roster := s.roster.nextTurn } :=
    s.roster.nextTurn_cases (P := fun roster => InStep { s with roster }) h fun _ _ =>
      ⟨h.settings, h.wellFormed, h.room, h.mirrors.congr rfl rfl rfl h.mirrors.sprites
        h.mirrors.cols h.mirrors.rows h.mirrors.grid⟩
  exact hturn.congr rfl rfl rfl

theorem pick (h : InStep s) (around : Surroundings) (number : String) :
    InStep (s.pick around number).1 := by
  refine s.pick_cases around number h fun x => ?_
  have hcommit := h.commit around (s.roster.staysRoomy_instructionsFor x.intent h.room)
  exact s.carryOut_cases around x hcommit (fun _ h => h.nextTurn around.colored)
    fun _ h => h.congr rfl rfl rfl

end InStep

theorem Reachable.inStep {s : Session} (h : Reachable s) : InStep s := by
  induction h with
  | start settings token => exact .start settings token
  | commit around batch _ room ih => exact ih.commit around room
  | tick colored seconds _ ih => exact ih.tickFor colored seconds
  | suggest colored _ ih => exact ih.congr rfl rfl rfl
  | nextTurn colored _ ih => exact ih.nextTurn colored
  | pick around number _ ih => exact ih.pick around number

/-! ## The agreement -/

/-- In every session that can be reached, world and roster have the same tokens in the same order,
the same definitions, and a board of the same size and grid. A fighter stands at the end of the walk
of its token, or exactly where the token stands if it has no walk. -/
theorem world_and_roster_agree {s : Session} (h : Reachable s) :
    s.world.scene.ids = s.roster.ids ∧
      (s.world.sprites = s.roster.sprites ∧ s.world.board.cols = s.roster.cols ∧
        s.world.board.rows = s.roster.rows ∧ s.world.board.grid = s.roster.grid) ∧
      ∀ t ∈ s.world.scene.tokens, ∀ f ∈ s.roster.fighters, f.id = t.id →
        (∀ walk, s.world.scene.walk? t.id = some walk →
          walk.path.getLast? = some (.ofCell f.position)) ∧
        (s.world.scene.walk? t.id = none → t.position = .ofCell f.position) := by
  have hstep := h.inStep
  have hmirrors := hstep.mirrors
  refine ⟨hmirrors.ids, ⟨hmirrors.sprites, hmirrors.cols, hmirrors.rows, hmirrors.grid⟩, ?_⟩
  intro t ht f hf hid
  have hplace := hmirrors.restingPlace_eq hstep.wellFormed.distinct ht hf hid
  constructor
  · intro walk hwalk
    have hfind : s.world.scene.walks.find? (·.token == t.id) = some walk := hwalk
    rw [Scene.restingPlace, hfind] at hplace
    exact hplace
  · intro hwalk
    have hfind : s.world.scene.walks.find? (·.token == t.id) = none := hwalk
    rw [Scene.restingPlace, hfind] at hplace
    exact Option.some.inj hplace

/-- A goblin on its way: half a second after it was sent out, it is between two cells. -/
theorem world_and_roster_agree_underway :
    ∃ s : Session, Reachable s ∧ s.world.scene.ids = [⟨"G", 1⟩] ∧
      (s.world.scene.walk? ⟨"G", 1⟩).isSome ∧ s.world.scene.ids = s.roster.ids ∧
      ∀ t ∈ s.world.scene.tokens, ∀ f ∈ s.roster.fighters, f.id = t.id →
        ∀ walk, s.world.scene.walk? t.id = some walk →
          walk.path.getLast? = some (.ofCell f.position) := by
  let around : Surroundings := ⟨false, 0, ⟨0⟩, fun _ => .error .missing⟩
  let batch : List Instruction :=
    [.board 9 1, .spriteDef "G" ∅, .place "G" [⟨0, 0⟩], .move "G-1" (.to ⟨8, 0⟩)]
  have hroom : World.empty.StaysRoomy (.ofSettings {} 0) batch := by decide +kernel
  have hreach := ((Reachable.start {} ⟨0⟩).commit around batch hroom).tick false 0.5
  obtain ⟨hids, -, hplaces⟩ := world_and_roster_agree hreach
  refine ⟨_, hreach, ?_, ?_, hids, fun t ht f hf hid => (hplaces t ht f hf hid).1⟩
  · decide +kernel
  · decide +kernel

end Console.Session

end Tabletop
