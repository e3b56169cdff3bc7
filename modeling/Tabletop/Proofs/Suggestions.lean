import Tabletop.Proofs.Decisions
import Tabletop.Proofs.Movement
import Tabletop.Proofs.Session
import Tabletop.Proofs.Shadows

/-!
# Suggestions that both sides accept

A suggestion comes to at most one instruction, which goes to the world and to the roster. When ids
are only found as a whole, neither of them skips it, in whatever state the session is.

* `Session.Played`: the sessions that batches, ticks, suggestions, turns and picks lead to, however
  many tokens there have been. `Played.onTrack` is their invariant.
* `Session.Moves` and `Session.Strikes` say what a move and an attack leave behind.
* `Session.accepts_suggestion`: a suggested move is one within the budget, as far as 32 bits count
  the cells. A suggested attack hits the token that it names if and only if the id of the token can
  be read.
-/

namespace Tabletop

/-! ## Fighters by their ids -/

namespace Roster

variable {r : Roster}

theorem readable_of_fighter? (hexact : r.settings.byBeginning = false) {reference : String}
    {f : Fighter} (h : r.fighter? reference = some f) : TokenId.Readable f.id.stem := by
  rw [fighter?_eq hexact] at h
  obtain ⟨id, hid, hfind⟩ := Option.bind_eq_some_iff.mp h
  obtain rfl : f.id = id := by simpa using List.find?_some hfind
  exact TokenId.readable_of_ofText? hid

/-- A fighter that has been found is found again by its own id. -/
theorem fighter?_text (hexact : r.settings.byBeginning = false) {reference : String}
    {f : Fighter} (h : r.fighter? reference = some f) : r.fighter? f.id.text = some f := by
  have hreadable := readable_of_fighter? hexact h
  rw [fighter?_eq hexact] at h ⊢
  obtain ⟨id, -, hfind⟩ := Option.bind_eq_some_iff.mp h
  obtain rfl : f.id = id := by simpa using List.find?_some hfind
  rw [TokenId.ofText?_text hreadable]
  exact hfind

/-- An id that can be read leads to a fighter with that id. -/
theorem exists_fighter?_text (hexact : r.settings.byBeginning = false) {f : Fighter}
    (hf : f ∈ r.fighters) (hreadable : TokenId.Readable f.id.stem) :
    ∃ g, r.fighter? f.id.text = some g ∧ g.id = f.id := by
  rw [fighter?_eq hexact, TokenId.ofText?_text hreadable, Option.bind_some]
  cases hfind : r.fighters.find? (·.id == f.id) with
  | none => exact absurd (beq_self_eq_true f.id) (List.find?_eq_none.mp hfind f hf)
  | some g => exact ⟨g, rfl, by simpa using List.find?_some hfind⟩

/-! ## What is suggested -/

theorem mem_of_nearestOpponent? {f target : Fighter} (h : r.nearestOpponent? f = some target) :
    target ∈ r.fighters :=
  List.mem_of_mem_filter (leastBy_eq_some_iff.mp h).mem

/-- The intents that are suggested to a fighter. -/
inductive Suggested (r : Roster) (f : Fighter) : Intent → Prop where
  | toward (target : Fighter) (mem : target ∈ r.fighters) :
      Suggested r f (.moveToward f.id.text target.id.text)
  | attack (target : Fighter) (mem : target ∈ r.fighters) (name : String) :
      Suggested r f (.attack f.id.text target.id.text name)
  | defend : Suggested r f (.defend f.id.text)
  | endTurn : Suggested r f (.endTurn f.id.text)

theorem suggested_approach {f target : Fighter} (h : target ∈ r.fighters) :
    Suggested r f (r.approach f target).intent := by
  unfold approach
  dsimp only
  split
  · exact .attack target h _
  · exact .toward target h

/-- Suggestions are made to a fighter that can be found. -/
theorem suggested_of_mem_advice {x : Suggestion} (h : x ∈ r.advice.suggestions) :
    ∃ reference f, r.fighter? reference = some f ∧ Suggested r f x.intent := by
  unfold advice at h
  split at h
  · cases h
  · rename_i f hf
    obtain ⟨reference, -, hf⟩ := Option.bind_eq_some_iff.mp hf
    refine ⟨reference, f, hf, ?_⟩
    rcases List.mem_append.mp h with h | h
    · obtain ⟨target, htarget, rfl⟩ := Option.map_eq_some_iff.mp (Option.mem_toList.mp h)
      exact suggested_approach (mem_of_nearestOpponent? htarget)
    · rcases List.mem_cons.mp h with rfl | h
      · exact .defend
      · obtain rfl := List.mem_singleton.mp h
        exact .endTurn

/-! ## What a suggestion comes to -/

theorem moveBudget_le (r : Roster) (f : Fighter) : r.moveBudget f ≤ Decimal.word32 :=
  (Nat.div_le_self _ _).trans (Nat.le_of_lt_succ f.speed.toNat_lt)

/-- The instructions for an intent of a fighter. -/
inductive Ordered (r : Roster) (f : Fighter) : Intent → List Instruction → Prop where
  | nothing (intent : Intent)
      (unknown : ∀ attacker target name, intent = .attack attacker target name →
        r.fighter? target = none) : Ordered r f intent []
  | move (target : String) (goal : Fighter) (found : r.fighter? target = some goal) (cell : Cell)
      (clamped : Grid.Clamped r.grid f.position goal.position (r.moveBudget f) cell) :
      Ordered r f (.moveToward f.id.text target) [.move f.id.text (.to cell)]
  | attack (reference : String) (target : Fighter) (found : r.fighter? reference = some target)
      (name : String) (kind : AttackKind) :
      Ordered r f (.attack f.id.text reference name)
        [.attack f.id.text target.id.text kind none none]

theorem ordered_of_suggested {f : Fighter} (hf : r.fighter? f.id.text = some f) {intent : Intent}
    (h : Suggested r f intent) : Ordered r f intent (r.instructionsFor intent) := by
  cases h with
  | toward target mem =>
    have hnothing : Ordered r f (.moveToward f.id.text target.id.text) [] :=
      .nothing _ fun _ _ _ heq => (by cases heq)
    rw [instructionsFor]
    split
    · rename_i goal hgoal
      unfold moveToward
      rw [hf]
      dsimp only
      split
      · exact hnothing
      · exact .move _ goal hgoal _ (Grid.clamped_clampToward _ _ _ _)
    · exact hnothing
  | attack target mem name =>
    rw [instructionsFor, hf]
    cases htarget : r.fighter? target.id.text with
    | none =>
      refine .nothing _ fun _ _ _ heq => ?_
      cases heq
      exact htarget
    | some found => exact .attack _ found htarget _ _
  | defend => exact .nothing _ fun _ _ _ heq => (by cases heq)
  | endTurn => exact .nothing _ fun _ _ _ heq => (by cases heq)

end Roster

/-! ## Moves and attacks on both sides -/

theorem Scene.walk?_setWalk {α : Type} (s : Scene α) (walk : Walk α) :
    (s.setWalk walk).walk? walk.token = some walk := by
  rw [walk?, setWalk, List.find?_append, find?_filter_self]
  simp

namespace World

variable {w : World}

/-- A token that can be addressed is sent to a cell. -/
theorem step_move_to (rules : Rules) {id : TokenId} (hreadable : TokenId.Readable id.stem)
    (hlive : id ∈ w.scene.ids) (cell : Cell) :
    ∃ walk : Walk Float,
      w.step rules (.move id.text (.to cell)) =
        .done { w with scene := w.scene.setWalk walk } ∧
      walk.token = id ∧ walk.path.getLast? = some (.ofCell cell) ∧ walk.isFinished = false := by
  obtain ⟨token, htoken⟩ := Option.isSome_iff_exists.mp (Scene.token?_isSome_iff.mpr hlive)
  let walk : Walk Float := ⟨id, [token.position, .ofCell cell], 1, rules.animation.cellsPerSecond⟩
  refine ⟨walk, ?_, rfl, rfl, rfl⟩
  rw [step, move, withToken, resolve?_text hreadable hlive]
  dsimp only
  rw [htoken]
  rfl

/-- An attack between tokens that can be addressed adds one effect between them. -/
theorem step_attack (rules : Rules) {source target : TokenId}
    (hsource : TokenId.Readable source.stem) (hsource' : source ∈ w.scene.ids)
    (htarget : TokenId.Readable target.stem) (htarget' : target ∈ w.scene.ids)
    (kind : AttackKind) :
    ∃ (w' : World) (effect : Effect Float),
      w.step rules (.attack source.text target.text kind none none) = .done w' ∧
      w'.scene.effects = w.scene.effects ++ [effect] ∧
      effect.source = .token source ∧ effect.target = .token target := by
  have hstep : w.step rules (.attack source.text target.text kind none none) =
      .done (w.addEffect (kind.name ++ "-attack") (.token source) (.token target)
        rules.animation.attackSpeed rules.animation.attackDuration) := by
    rw [step, attack, withToken, resolve?_text hsource hsource']
    dsimp only
    rw [withToken, resolve?_text htarget htarget']
    rfl
  exact ⟨_, _, hstep, rfl, rfl, rfl⟩

/-- A batch of one instruction that is applied. -/
theorem apply_singleton {rules : Rules} {i : Instruction} (hi : i.isSideChannel = false)
    {w' : World} (h : w.step rules i = .done w') :
    w.apply rules [i] =
      ({ w' with board := w'.board.fillFlat },
        [.applied i.tag, .note (summary 1 { w' with board := w'.board.fillFlat })]) := by
  simp [apply, run, stepInBatch, hi, h, report, Step.done]

end World

/-- A fighter that can be found is moved to a cell. -/
theorem Roster.step_move_to {r : Roster} (hexact : r.settings.byBeginning = false) {f : Fighter}
    (hf : r.fighter? f.id.text = some f) (cell : Cell) :
    ∃ r' : Roster, r.step (.move f.id.text (.to cell)) = .ok r' ∧
      r'.fighter? f.id.text = some { f with position := cell } := by
  let r' : Roster :=
    { r with fighters := updateFirst (·.id == f.id) ({ · with position := cell }) r.fighters }
  have hread := TokenId.ofText?_text (readable_of_fighter? hexact hf)
  refine ⟨r', ?_, ?_⟩
  · have hchange : r.step (.move f.id.text (.to cell)) =
        r.change f.id.text ({ · with position := cell }) := rfl
    rw [hchange]
    unfold change
    rw [hf]
  · have hexact' : r'.settings.byBeginning = false := hexact
    rw [fighter?_eq hexact, hread] at hf
    rw [fighter?_eq hexact', hread]
    exact find?_updateFirst hf (beq_self_eq_true _)

namespace Console.Session

/-! ## Runs of a session -/

/-- The sessions that a table can get to, however many tokens there have been. -/
inductive Played : Session → Prop where
  | start (settings : Settings) (token : RefreshToken) : Played (.start settings token)
  | commit {s : Session} (around : Surroundings) (batch : List Instruction) (h : Played s) :
      Played (s.commit around batch).1
  | tick {s : Session} (colored : Bool) (seconds : Float) (h : Played s) :
      Played (s.tickFor colored seconds).1
  | suggest {s : Session} (colored : Bool) (h : Played s) : Played (s.suggest colored).1
  | nextTurn {s : Session} (colored : Bool) (h : Played s) : Played (s.nextTurn colored).1
  | pick {s : Session} (around : Surroundings) (number : String) (h : Played s) :
      Played (s.pick around number).1

/-- The roster of a session goes by its settings. It shadows the world where ids are only found as a
whole. -/
structure OnTrack (s : Session) : Prop where
  settings : s.roster.settings = s.settings
  shadows : s.settings.byBeginning = false → Shadows s.world s.roster

namespace OnTrack

variable {s : Session}

theorem start (settings : Settings) (token : RefreshToken) :
    OnTrack (Session.start settings token) := ⟨rfl, fun _ => .empty settings⟩

/-- Journal and suggestions have no part in it. -/
theorem congr (h : OnTrack s) {s' : Session} (settings : s'.settings = s.settings)
    (world : s'.world = s.world) (roster : s'.roster = s.roster) : OnTrack s' where
  settings := by rw [settings, roster, h.settings]
  shadows := by
    rw [settings, world, roster]
    exact h.shadows

theorem commit (h : OnTrack s) (around : Surroundings) (batch : List Instruction) :
    OnTrack (s.commit around batch).1 := by
  rw [Session.commit]
  split
  · exact h
  · refine ⟨(Roster.apply_settings s.roster batch).trans h.settings, fun hexact => ?_⟩
    exact (h.shadows hexact).apply hexact (h.settings ▸ hexact)

theorem tickFor (h : OnTrack s) (colored : Bool) (seconds : Float) :
    OnTrack (s.tickFor colored seconds).1 :=
  ⟨h.settings, fun hexact => (h.shadows hexact).tick _ seconds⟩

theorem nextTurn (h : OnTrack s) (colored : Bool) : OnTrack (s.nextTurn colored).1 := by
  have hturn : OnTrack { s with roster := s.roster.nextTurn } :=
    s.roster.nextTurn_cases (P := fun roster => OnTrack { s with roster }) h fun _ _ =>
      ⟨h.settings, fun hexact =>
        have ht := h.shadows hexact
        ⟨⟨ht.sprites, ht.cols, ht.rows, ht.grid⟩, ht.ids⟩⟩
  exact hturn.congr rfl rfl rfl

theorem pick (h : OnTrack s) (around : Surroundings) (number : String) :
    OnTrack (s.pick around number).1 := by
  refine s.pick_cases around number h fun x => ?_
  exact s.carryOut_cases around x (h.commit around _) (fun _ h => h.nextTurn around.colored)
    fun _ h => h.congr rfl rfl rfl

end OnTrack

theorem Played.onTrack {s : Session} (h : Played s) : OnTrack s := by
  induction h with
  | start settings token => exact .start settings token
  | commit around batch _ ih => exact ih.commit around batch
  | tick colored seconds _ ih => exact ih.tickFor colored seconds
  | suggest colored _ ih => exact ih.congr rfl rfl rfl
  | nextTurn colored _ ih => exact ih.nextTurn colored
  | pick around number _ ih => exact ih.pick around number

/-! ## What an order leaves behind -/

/-- Neither the world nor the roster skipped an instruction. -/
def Accepted (events : List Event) : Prop := ∀ e ∈ events, e.skipReason? = none

/-- The fighter of a reference has gone toward a target, no further than there, and its token is on
the way to where the fighter is now. The distance that it has gone is within its budget. The number
of cells is within the budget exactly if it has 32 bits, as it has if that of the cells to the target
has. -/
def Moves (s s' : Session) (reference target : String) : Prop :=
  ∃ f goal g walk, s.roster.fighter? reference = some f ∧ s.roster.fighter? target = some goal ∧
    s'.roster.fighter? reference = some g ∧ g.id = f.id ∧
    s.roster.distance f g ≤ s.roster.moveBudget f ∧
    (s.roster.apart f g ≤ s.roster.moveBudget f ↔ s.roster.apart f g ≤ Decimal.word32) ∧
    s.roster.apart f g ≤ s.roster.apart f goal ∧
    s'.world.scene.walk? f.id = some walk ∧ walk.isFinished = false ∧
    walk.path.getLast? = some (.ofCell g.position)

/-- One effect has been added, from the live token with one id to the live token with another. -/
def Strikes (s s' : Session) (attacker target : String) : Prop :=
  ∃ effect source goal, s'.world.scene.effects = s.world.scene.effects ++ [effect] ∧
    effect.source = .token source ∧ effect.target = .token goal ∧
    source ∈ s.world.scene.ids ∧ goal ∈ s.world.scene.ids ∧
    source.text = attacker ∧ goal.text = target

variable {s : Session}

/-- A batch of one instruction that both sides follow. -/
theorem commit_singleton (around : Surroundings) {i : Instruction} (hi : i.isSideChannel = false)
    {w : World} (hworld : s.world.step (.ofSettings s.settings around.clockSeed) i = .done w)
    {r : Roster} (hroster : s.roster.step i = .ok r) :
    (s.commit around [i]).1.world.scene = w.scene ∧ (s.commit around [i]).1.roster = r ∧
      Accepted (s.commit around [i]).2 := by
  have happly : s.roster.apply [i] = (r, []) := by
    rw [Roster.apply, hroster]
    rfl
  rw [Session.commit, if_neg (by simp), World.apply_singleton hi hworld, happly]
  refine ⟨rfl, rfl, ?_⟩
  intro e he
  rcases List.mem_cons.mp he with rfl | he
  · rfl
  · obtain rfl := List.mem_singleton.mp he
    rfl

theorem commit_move (h : Shadows s.world s.roster) (hexact : s.roster.settings.byBeginning = false)
    (around : Surroundings) {f : Fighter} (hf : s.roster.fighter? f.id.text = some f)
    {target : String} {goal : Fighter} (hgoal : s.roster.fighter? target = some goal) {cell : Cell}
    (hclamped : Grid.Clamped s.roster.grid f.position goal.position (s.roster.moveBudget f) cell) :
    Accepted (s.commit around [.move f.id.text (.to cell)]).2 ∧
      Moves s (s.commit around [.move f.id.text (.to cell)]).1 f.id.text target := by
  have hreadable := Roster.readable_of_fighter? hexact hf
  have hlive := h.ids.subset (List.mem_map_of_mem (Roster.mem_of_fighter? hf))
  obtain ⟨walk, hworld, hwalker, hend, hunderway⟩ :=
    World.step_move_to (.ofSettings s.settings around.clockSeed) hreadable hlive cell
  obtain ⟨r, hroster, hg⟩ := Roster.step_move_to hexact hf cell
  obtain ⟨hscene, hroster', haccepted⟩ := commit_singleton around rfl hworld hroster
  have hcells := Grid.apart_le_iff (s.roster.moveBudget_le f) hclamped.within
  have hgone := Grid.apart_home_le_of_onWay s.roster.grid hclamped.onWay
  refine ⟨haccepted, f, goal, { f with position := cell }, walk, hf, hgoal, ?_, rfl,
    hclamped.within, hcells, hgone, ?_, hunderway, hend⟩
  · rw [hroster']
    exact hg
  · rw [hscene, ← hwalker]
    exact Scene.walk?_setWalk s.world.scene walk

theorem commit_attack (h : Shadows s.world s.roster)
    (hexact : s.roster.settings.byBeginning = false) (around : Surroundings)
    {reference reference' : String} {f target : Fighter}
    (hf : s.roster.fighter? reference = some f)
    (htarget : s.roster.fighter? reference' = some target) (kind : AttackKind) :
    Accepted (s.commit around [.attack f.id.text target.id.text kind none none]).2 ∧
      Strikes s (s.commit around [.attack f.id.text target.id.text kind none none]).1 f.id.text
        target.id.text := by
  have hlive : ∀ {reference : String} {g : Fighter}, s.roster.fighter? reference = some g →
      g.id ∈ s.world.scene.ids := fun hg =>
    h.ids.subset (List.mem_map_of_mem (Roster.mem_of_fighter? hg))
  obtain ⟨w, effect, hworld, heffects, hsource, hgoal⟩ :=
    World.step_attack (.ofSettings s.settings around.clockSeed)
      (Roster.readable_of_fighter? hexact hf) (hlive hf)
      (Roster.readable_of_fighter? hexact htarget) (hlive htarget) kind
  obtain ⟨hscene, -, haccepted⟩ := commit_singleton around rfl hworld rfl
  refine ⟨haccepted, effect, f.id, target.id, ?_, hsource, hgoal, hlive hf, hlive htarget, rfl, rfl⟩
  rw [hscene, heffects]

theorem not_strikes_self (s : Session) (attacker target : String) :
    ¬ Strikes s s attacker target := by
  rintro ⟨effect, _, _, heffects, -⟩
  have hlength := congrArg List.length heffects
  simp at hlength

/-- There is only one effect that is new, so the ids of its ends are given. -/
theorem Strikes.target_eq {s s' : Session} {attacker attacker' target target' : String}
    (h : Strikes s s' attacker target) (h' : Strikes s s' attacker' target') :
    target = target' := by
  obtain ⟨effect, _, goal, heffects, -, hgoal, -, -, -, rfl⟩ := h
  obtain ⟨effect', _, goal', heffects', -, hgoal', -, -, -, rfl⟩ := h'
  obtain rfl : effect = effect' := by
    have heq := heffects.symm.trans heffects'
    exact List.singleton_inj.mp (List.append_cancel_left heq)
  rw [hgoal] at hgoal'
  cases hgoal'
  rfl

/-! ## Suggestions -/

theorem accepts_ordered (h : Shadows s.world s.roster)
    (hexact : s.roster.settings.byBeginning = false) (around : Surroundings) {f : Fighter}
    (hf : s.roster.fighter? f.id.text = some f) {intent : Intent} {orders : List Instruction}
    (hordered : s.roster.Ordered f intent orders) :
    orders.length ≤ 1 ∧ Accepted (s.commit around orders).2 ∧
      (∀ reference route, orders = [.move reference route] → ∃ target,
        intent = .moveToward reference target ∧
          Moves s (s.commit around orders).1 reference target) ∧
      ∀ attacker target name, intent = .attack attacker target name →
        (Strikes s (s.commit around orders).1 attacker target ↔
          ∃ g ∈ s.roster.fighters, g.id.text = target ∧ TokenId.Readable g.id.stem) := by
  cases hordered with
  | nothing _ unknown =>
    have hcommit : s.commit around [] = (s, []) := rfl
    rw [hcommit]
    refine ⟨by simp, List.forall_mem_nil _, fun _ _ heq => (by cases heq), ?_⟩
    rintro attacker target name rfl
    refine ⟨fun hstrikes => absurd hstrikes (not_strikes_self s _ _), ?_⟩
    rintro ⟨g, hg, rfl, hreadable⟩
    -- A target that can be read would have been found, and an attack on it ordered.
    obtain ⟨g', hg', -⟩ := Roster.exists_fighter?_text hexact hg hreadable
    rw [unknown attacker _ name rfl] at hg'
    cases hg'
  | move target goal found cell clamped =>
    obtain ⟨haccepted, hmoves⟩ := commit_move h hexact around hf found clamped
    refine ⟨by simp, haccepted, ?_, fun _ _ _ heq => (by cases heq)⟩
    rintro reference route heq
    cases heq
    exact ⟨target, rfl, hmoves⟩
  | attack reference target found name kind =>
    obtain ⟨haccepted, hstrikes⟩ := commit_attack h hexact around hf found kind
    refine ⟨by simp, haccepted, fun _ _ heq => (by cases heq), ?_⟩
    rintro attacker reference' name' heq
    cases heq
    constructor
    · intro hstrikes'
      exact ⟨target, Roster.mem_of_fighter? found, hstrikes.target_eq hstrikes',
        Roster.readable_of_fighter? hexact found⟩
    · rintro ⟨g, hg, rfl, hreadable⟩
      obtain ⟨g', hg', hid⟩ := Roster.exists_fighter?_text hexact hg hreadable
      obtain rfl : target = g' := Option.some.inj (found.symm.trans hg')
      exact hid ▸ hstrikes

/-- Where ids are only found as a whole, every suggestion comes to at most one instruction, and
neither the world nor the roster skips it. A move is one toward a target. It stays within the budget,
unless the cells are more than 32 bits can count, and the token is on the way to where the fighter
stands then. A suggested attack hits the token that it names if and only if the id of that token can
be read; otherwise it hits nothing, or another token. -/
theorem accepts_suggestion (h : Played s) (hexact : s.settings.byBeginning = false)
    (around : Surroundings) {x : Suggestion} (hx : x ∈ s.roster.advice.suggestions) :
    let orders := s.roster.instructionsFor x.intent
    let reply := s.commit around orders
    orders.length ≤ 1 ∧ Accepted reply.2 ∧
      (∀ reference route, orders = [.move reference route] → ∃ target,
        x.intent = .moveToward reference target ∧ Moves s reply.1 reference target) ∧
      ∀ attacker target name, x.intent = .attack attacker target name →
        (Strikes s reply.1 attacker target ↔
          ∃ f ∈ s.roster.fighters, f.id.text = target ∧ TokenId.Readable f.id.stem) := by
  have hexact' : s.roster.settings.byBeginning = false := h.onTrack.settings ▸ hexact
  obtain ⟨reference, f, hfound, hsuggested⟩ := Roster.suggested_of_mem_advice hx
  have hf := Roster.fighter?_text hexact' hfound
  exact accepts_ordered (h.onTrack.shadows hexact) hexact' around hf
    (Roster.ordered_of_suggested hf hsuggested)

/-- A hero next to a goblin. -/
theorem accepts_suggestion_hero :
    ∃ s around, Played s ∧ s.settings.byBeginning = false ∧ ∃ x ∈ s.roster.advice.suggestions,
      x.intent = .attack "hero-1" "goblin-1" "Longsword" ∧
      Strikes s (s.commit around (s.roster.instructionsFor x.intent)).1 "hero-1" "goblin-1" := by
  let around : Surroundings := ⟨false, 0, ⟨0⟩, fun _ => .error .missing⟩
  let batch : List Instruction :=
    [.create (.ofList [("type", "hero")]) (.cells [⟨0, 0⟩]),
      .create (.ofList [("type", "goblin")]) (.cells [⟨1, 0⟩])]
  let s := ((start {} ⟨0⟩).commit around batch).1
  have hplayed : Played s := .commit around batch (.start {} ⟨0⟩)
  have hexact : s.settings.byBeginning = false := by decide +kernel
  let x : Suggestion :=
    ⟨"Attack Goblin with Longsword (5 ft)", .attack "hero-1" "goblin-1" "Longsword"⟩
  have hx : x ∈ s.roster.advice.suggestions := by decide +kernel
  have hids : s.roster.fighters.map (·.id) = [⟨"hero", 1⟩, ⟨"goblin", 1⟩] := by decide +kernel
  have hmem : ⟨"goblin", 1⟩ ∈ s.roster.fighters.map (·.id) := by
    rw [hids]
    decide
  obtain ⟨f, hf, hid⟩ := List.mem_map.mp hmem
  refine ⟨s, around, hplayed, hexact, x, hx, rfl, ?_⟩
  refine ((accepts_suggestion hplayed hexact around hx).2.2.2 _ _ _ rfl).mpr ⟨f, hf, ?_⟩
  rw [hid]
  exact ⟨by decide, by decide⟩

/-- A hero is to attack the goblin whose name begins with a blank, and hits itself. -/
theorem attack_hits_attacker :
    ∃ s around, Played s ∧ s.settings.byBeginning = false ∧ ∃ x ∈ s.roster.advice.suggestions,
      x.intent = .attack "g-1" " g-1" "Longsword" ∧ ⟨" g", 1⟩ ∈ s.world.scene.ids ∧
      Strikes s (s.commit around (s.roster.instructionsFor x.intent)).1 "g-1" "g-1" ∧
      ¬ Strikes s (s.commit around (s.roster.instructionsFor x.intent)).1 "g-1" " g-1" := by
  let around : Surroundings := ⟨false, 0, ⟨0⟩, fun _ => .error .missing⟩
  let batch : List Instruction :=
    [.create (.ofList [("type", "hero"), ("id", "g")]) (.cells [⟨0, 0⟩]),
      .create (.ofList [("type", "goblin"), ("id", " g")]) (.cells [⟨1, 0⟩])]
  let s := ((start {} ⟨0⟩).commit around batch).1
  let x : Suggestion :=
    ⟨"Attack Goblin with Longsword (5 ft)", .attack "g-1" " g-1" "Longsword"⟩
  let s' := (s.commit around (s.roster.instructionsFor x.intent)).1
  let effect : Effect Float :=
    ⟨1, "physical-attack", .token ⟨"g", 1⟩, .token ⟨"g", 1⟩, 1.0, 0.6, 0.0⟩
  have heffects : s'.world.scene.effects = s.world.scene.effects ++ [effect] := by decide +kernel
  have hids : s.world.scene.ids = [⟨"g", 1⟩, ⟨" g", 1⟩] := by decide +kernel
  have hmem : ⟨"g", 1⟩ ∈ s.world.scene.ids ∧ ⟨" g", 1⟩ ∈ s.world.scene.ids := by
    rw [hids]
    decide
  have hitself : Strikes s s' "g-1" "g-1" :=
    ⟨effect, ⟨"g", 1⟩, ⟨"g", 1⟩, heffects, rfl, rfl, hmem.1, hmem.1, by decide, by decide⟩
  refine ⟨s, around, .commit around batch (.start {} ⟨0⟩), by decide +kernel, x, by decide +kernel,
    rfl, hmem.2, hitself, fun hother => ?_⟩
  exact absurd (hitself.target_eq hother) (by decide)

end Console.Session

end Tabletop
