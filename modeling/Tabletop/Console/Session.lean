import Tabletop.Advice
import Tabletop.Console.Command
import Tabletop.Console.Files
import Tabletop.Console.Style
import Tabletop.Journal
import Tabletop.Script
import Tabletop.World.Clock
import Tabletop.World.Json
import Tabletop.World.Step

/-!
# Sessions

A session is the table of one game: the world, the roster that takes the turns, and the journal for
those who follow. Every batch goes to all three.

* `Session.commit` is one batch.
* `Session.handle` is one line that has been typed: the session afterwards, and what is shown.

The suggestions that were shown last may be picked by their number, as long as nothing has happened
since.
-/

namespace Tabletop.Console

/-- What a session takes from outside while it handles a line. -/
structure Surroundings where
  colored : Bool
  /-- The seed of random terrain for which a script gives none. -/
  clockSeed : UInt64
  /-- The refresh token for a journal that is wiped. -/
  freshToken : RefreshToken
  file : String → Except FileFault String

structure Session where
  settings : Settings
  world : World
  roster : Roster
  journal : Journal
  /-- The suggestions that were shown last. -/
  advice : Option Advice
deriving DecidableEq

/-- The session after a line, what is shown, and whether it is over. -/
structure Reply where
  session : Session
  shown : List String
  isOver : Bool

namespace Session

def start (settings : Settings) (token : RefreshToken) : Session where
  settings := settings
  world := .empty
  roster := .empty settings
  journal := .start token
  advice := none

/-! ## Batches -/

/-- A batch. An empty one does not even take the suggestions away. -/
def commit (around : Surroundings) (s : Session) (batch : List Instruction) :
    Session × List Event :=
  if batch.isEmpty then (s, [])
  else
    let (world, events) := s.world.apply (.ofSettings s.settings around.clockSeed) batch
    let (roster, more) := s.roster.apply batch
    ({ s with
        world
        roster
        journal := s.journal.append around.freshToken batch
        advice := none },
      events ++ more)

/-- A script as one batch. The number is that of its instructions. -/
def runScript (around : Surroundings) (s : Session) (source : String) :
    Session × List Event × Nat :=
  let out := Script.parse s.settings.rowBase source
  let (s, events) := s.commit around out.instructions
  (s, out.events ++ events, out.instructions.length)

/-- What is shown of an event. -/
def shown? (colored : Bool) : Event → Option String
  | .skipped tag reason => some (Style.warning.paint colored s!"skipped {tag}: {reason}")
  | .miss line text => some (Style.warning.paint colored s!"line {line}: not understood: {text}")
  | .dropped line entry => some (Style.warning.paint colored s!"line {line}: dropped '{entry}'")
  | .applied _ | .note _ => none

def shownEvents (colored : Bool) (events : List Event) : List String :=
  events.filterMap (shown? colored)

/-! ## Commands -/

/-- The seconds of a `:tick` without a number. -/
def tickSeconds : Float := 0.5

def tickFor (colored : Bool) (s : Session) (seconds : Float) : Session × List String :=
  let (world, report) := s.world.tick (.ofSettings s.settings.animation) seconds
  let arrived := report.arrived.map fun id => Style.token.paint colored id.text ++ " arrived"
  let expired := report.expired.map fun id =>
    Style.info.paint colored s!"effect #{id} finished"
  let quiet :=
    if report.isQuiet then
      [s!"{world.scene.walks.length} move(s), {world.scene.effects.length} effect(s) in flight"]
    else []
  ({ s with world }, arrived ++ expired ++ quiet)

def tick (colored : Bool) (s : Session) (seconds : String) : Session × List String :=
  if seconds.isEmpty then s.tickFor colored tickSeconds
  else
    match Decimal.readFloat? seconds.toList with
    | some x => s.tickFor colored x
    | none => (s, [Style.error.paint colored s!"not a number of seconds: '{seconds}'"])

def gridWord : Grid → String
  | .square => "Square"
  | .hex => "Hex"

def placeOf (base : RowBase) (t : Token Float) : String :=
  match t.cell?.bind (·.reference? base) with
  | some reference => reference
  | none =>
    "(" ++ Decimal.fixedText 1 t.position.col ++ ", " ++ Decimal.fixedText 1 t.position.row ++ ")"

def tokenLine (colored : Bool) (s : Session) (t : Token Float) : String :=
  let moving := if (s.world.scene.walk? t.id).isSome then " (moving)" else ""
  "  " ++ (Style.ofFaction t.faction).paint colored t.id.text ++ " " ++ t.name ++ " at " ++
    Style.coord.paint colored (placeOf s.settings.rowBase t) ++ moving

def boardLine (b : Board) : String :=
  s!"{b.id} {b.cols.toNat}x{b.rows.toNat} {gridWord b.grid} grid, {b.cellSize.toNat}px cells"

def turnLine (r : Roster) : String :=
  let who :=
    match r.activeFighter? with
    | some f => s!"{f.name} ({f.id.text})"
    | none => "-"
  s!"round {r.round}, {who}"

/-- The lines of `:state`. -/
def description (colored : Bool) (s : Session) : List String :=
  [Style.heading.paint colored (boardLine s.world.board)] ++
    (s.world.board.background.map ("background: " ++ ·)).toList ++
    [Style.sectionTitle colored "tokens" ++ s!" {s.world.scene.tokens.length}"] ++
    s.world.scene.tokens.map (s.tokenLine colored) ++
    [Style.sectionTitle colored "turn" ++ " " ++ Style.info.paint colored (turnLine s.roster)]

/-- The lines of `:suggest`. -/
def adviceLines (colored : Bool) (a : Advice) : List String :=
  let who := a.activeName.getD "no one"
  [Style.heading.paint colored s!"Round {a.round} | {who}", Style.info.paint colored a.summary] ++
    a.suggestions.mapIdx fun i x =>
      s!"  {i + 1}. " ++ Style.suggestion.paint colored x.label

def suggest (colored : Bool) (s : Session) : Session × List String :=
  let advice := s.roster.advice
  ({ s with advice := some advice }, adviceLines colored advice)

def nextTurn (colored : Bool) (s : Session) : Session × List String :=
  let roster := s.roster.nextTurn
  let who := (roster.activeFighter?.map (·.name)).getD "no one"
  ({ s with roster, advice := none },
    [Style.heading.paint colored s!"Round {roster.round}: {who}'s turn"])

/-- The suggestion with a number, counted from one. -/
def chosen? (a : Advice) (number : String) : Option Suggestion := do
  match ← Decimal.readNat? Decimal.word64 number.toList with
  | 0 => none
  | n + 1 => a.suggestions[n]?

/-- What follows an intent beyond its instructions. -/
def conclude (colored : Bool) (s : Session) : Intent → Session × List String
  | .endTurn _ => s.nextTurn colored
  | .defend _ => (s, [Style.info.paint colored "defending"])
  | .moveToCell .. | .moveToward .. | .attack .. => (s, [])

def carryOut (around : Surroundings) (s : Session) (x : Suggestion) : Session × List String :=
  let (s, events) := s.commit around (s.roster.instructionsFor x.intent)
  let (s, more) := s.conclude around.colored x.intent
  ({ s with advice := none },
    Style.suggestion.paint around.colored ("> " ++ x.label) ::
      (shownEvents around.colored events ++ more))

def pick (around : Surroundings) (s : Session) (number : String) : Session × List String :=
  match s.advice with
  | none => (s, [Style.warning.paint around.colored "no suggestions yet (try :suggest)"])
  | some a =>
    match chosen? a number with
    | none => (s, [Style.error.paint around.colored s!"no suggestion '{number}'"])
    | some x => s.carryOut around x

def load (around : Surroundings) (s : Session) (path : String) : Session × List String :=
  if path.isEmpty then (s, [Style.warning.paint around.colored "usage: :load <file>"])
  else
    match around.file path with
    | .error fault =>
      (s, [Style.error.paint around.colored s!"could not read {path}: {fault.message}"])
    | .ok source =>
      let (s, events, count) := s.runScript around source
      (s, shownEvents around.colored events ++ [s!"loaded {count} instruction(s) from {path}"])

/-- A command, and whether it ends the session. -/
def obey (around : Surroundings) (s : Session) : Command → Reply
  | .quit => ⟨s, [], true⟩
  | .help => ⟨s, [Usage.help], false⟩
  | .tick seconds => goOn (s.tick around.colored seconds)
  | .state => ⟨s, s.description around.colored, false⟩
  | .suggest => goOn (s.suggest around.colored)
  | .pick number => goOn (s.pick around number)
  | .next => goOn (s.nextTurn around.colored)
  | .load path => goOn (s.load around path)
  | .dump => ⟨s, [s.world.text], false⟩
  | .unknown name =>
    ⟨s, [Style.error.paint around.colored s!"unknown command ':{name}' (try :help)"], false⟩
where
  goOn (reply : Session × List String) : Reply := ⟨reply.1, reply.2, false⟩

/-- One line that has been typed. -/
def handle (around : Surroundings) (s : Session) (line : String) : Reply :=
  match Line.read line with
  | .empty => ⟨s, [], false⟩
  | .command c => s.obey around c
  | .script source =>
    let (s, events, _) := s.runScript around source
    ⟨s, shownEvents around.colored events, false⟩

end Session

end Tabletop.Console
