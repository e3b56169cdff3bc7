import Tabletop.Event
import Tabletop.Message
import Tabletop.Random
import Tabletop.Settings
import Tabletop.World

/-!
# Instructions change the world

Each instruction is applied or skipped on its own; one that is skipped does not undo the ones before
it.

* `World.step` is one instruction: the world afterwards, notes on the way, and the cause if the
  instruction was skipped.
* `World.apply` is a batch. When all of its instructions are through, a board without heights is
  filled with height zero.
-/

namespace Tabletop

/-- Why an instruction was skipped. -/
inductive Skip where
  | unknownToken (reference : String)
  | unknownDefinition (reference : String)
  | missingAttribute (key : String)
  | noBoard
  | noCoordinates
  | invalidRange (low high : Float)
deriving DecidableEq

def Skip.message : Skip → String
  | .unknownToken reference => s!"unknown token '{reference}'"
  | .unknownDefinition reference => s!"unknown definition or template '{reference}'"
  | .missingAttribute key => s!"missing '{key}' attribute"
  | .noBoard => "board has no cells"
  | .noCoordinates => "no valid coordinates"
  | .invalidRange low high =>
    "invalid height range " ++ Message.number low ++ ".." ++ Message.number high

/-- The rules that a world is changed by. -/
structure Rules where
  animation : Settings.Animation
  byBeginning : Bool
  rowBase : RowBase
  /-- The seed of random terrain for which a script gives none. It is one reading of the clock for
  the whole batch, however many such instructions are in it. -/
  clockSeed : UInt64
  /-- How a number is drawn from an interval. -/
  sample : Random.Sampler

def Rules.ofSettings (settings : Settings) (clockSeed : UInt64) : Rules where
  animation := settings.animation
  byBeginning := settings.byBeginning
  rowBase := settings.rowBase
  clockSeed := clockSeed
  sample := Random.nextFloat

/-- What becomes of the world by one instruction. -/
structure Step where
  world : World
  notes : List String
  skipped : Option Skip
deriving DecidableEq

namespace Step

def done (world : World) : Step := ⟨world, [], none⟩

def skip (world : World) (cause : Skip) : Step := ⟨world, [], some cause⟩

end Step

namespace World

/-! ## Tokens -/

/-- One token with the stem for each cell. -/
def spawnOn (sprite : Sprite) (stem : String) (attrs : Attributes) (w : World) : List Cell → World
  | [] => w
  | cell :: rest =>
    let token := Token.spawn (w.nextId stem) sprite w.board.id cell attrs
    spawnOn sprite stem attrs { w with scene := { w.scene with tokens := w.scene.tokens ++ [token] } }
      rest

def spawn (sprite : Sprite) (stem : String) (attrs : Attributes) (w : World) (cells : List Cell) :
    Step :=
  if cells.isEmpty then .skip w .noCoordinates else .done (spawnOn sprite stem attrs w cells)

def place (w : World) (code : String) (cells : List Cell) : Step :=
  match Sprite.resolve? w.sprites code with
  | none => .skip w (.unknownDefinition code)
  | some (sprite, sprites) => spawn sprite code ∅ { w with sprites } cells

def create (w : World) (attrs : Attributes) (target : Target) : Step :=
  match attrs.reference? with
  | none => .skip w (.missingAttribute "type")
  | some reference =>
    match Sprite.resolve? w.sprites reference with
    | none => .skip w (.unknownDefinition reference)
    | some (sprite, sprites) =>
      let w := { w with sprites }
      let stem := attrs.stem?.getD reference
      match target with
      | .cells cells => spawn sprite stem attrs w cells
      | .all =>
        if w.board.cells.isEmpty then .skip w .noBoard
        else spawn sprite stem attrs w w.board.cells

/-- Continues with the token that a reference stands for. -/
def withToken (rules : Rules) (w : World) (reference : String) (f : TokenId → Step) : Step :=
  match w.resolve? rules.byBeginning reference with
  | some id => f id
  | none => .skip w (.unknownToken reference)

def state (rules : Rules) (w : World) (attrs : Attributes) : Step :=
  match attrs.first? ["id", "token"] with
  | none => .skip w (.missingAttribute "id")
  | some reference =>
    w.withToken rules reference fun id =>
      .done { w with scene := { w.scene with
        tokens := updateFirst (·.id == id) (·.withAttributes attrs) w.scene.tokens } }

/-- A walk to one cell begins where the token stands; a walk along waypoints begins with the way to
the first of them. -/
def walkOf? (position : Point Float) : Route → Option (List (Point Float) × Nat)
  | .to cell => some ([position, .ofCell cell], 1)
  | .waypoints [] => none
  | .waypoints cells => some (cells.map .ofCell, 0)

def move (rules : Rules) (w : World) (reference : String) (route : Route) : Step :=
  w.withToken rules reference fun id =>
    match w.scene.token? id with
    | none => .skip w (.unknownToken reference)
    | some token =>
      match walkOf? token.position route with
      | none => .skip w .noCoordinates
      | some (path, index) =>
        let walk : Walk Float := ⟨id, path, index, rules.animation.cellsPerSecond⟩
        .done { w with scene := w.scene.setWalk walk }

def attack (rules : Rules) (w : World) (attacker target : String) (kind : AttackKind)
    (speed duration : Option Float) : Step :=
  w.withToken rules attacker fun source =>
    w.withToken rules target fun target =>
      .done (w.addEffect (kind.name ++ "-attack") (.token source) (.token target)
        (speed.getD rules.animation.attackSpeed) (duration.getD rules.animation.attackDuration))

/-! ## Heights -/

def withHeights (w : World) (heights : List (Cell × Float)) : World :=
  { w with board := { w.board with heights := w.board.heights.insertAll heights } }

def finite? (cs : List Char) : Option Float := (Decimal.readFloat? cs).filter (·.isFinite)

/-- A pair `A1=2`. -/
def heightPair? (base : RowBase) (entry : List Char) : Option (Cell × Float) := do
  let (reference, value) ← Text.cut (· == '=') entry
  return (← Cell.ofReferenceChars? base reference, ← finite? (Text.trim value))

/-- The pairs of a text, divided by blanks and commas, and notes on those that cannot be read. -/
def heightPairs (base : RowBase) (text : String) : List (Cell × Float) × List String :=
  let entries := (text.toList.splitOnP fun c => Text.isBlank c || c == ',').filter (! ·.isEmpty)
  (entries.filterMap (heightPair? base),
    (entries.filter fun e => (heightPair? base e).isNone).map fun e =>
      s!"height: dropped malformed entry '{String.ofList e}'")

/-- The numbers of one row with their cells, and notes on the entries that are no numbers. -/
def heightRow (row : Nat) (line : String) : List (Cell × Float) × List String :=
  let entries := (line.toList.splitOn ',').mapIdx fun col entry => (col, Text.trim entry)
  (entries.filterMap fun (col, entry) =>
      (finite? entry).map ((⟨UInt32.ofNat col, UInt32.ofNat row⟩, ·)),
    (entries.filter fun (_, entry) => (finite? entry).isNone).map fun (_, entry) =>
      s!"height rows: dropped malformed entry '{String.ofList entry}' at row {row}")

def heightRows (w : World) (rows : List String) : Step :=
  let read := rows.mapIdx heightRow
  let (cols, count) := Instruction.rowsExtent rows
  let w := w.withHeights (read.flatMap (·.1))
  ⟨{ w with board := w.board.grow cols count }, read.flatMap (·.2), none⟩

/-- A drawn height with one decimal place, as far as it has one. -/
def roundedHeight (x : Float) : Float :=
  let rounded := Decimal.roundHalfAway (x * 10.0) / 10.0
  if rounded.isFinite then rounded else x

/-- One draw for each cell. -/
def drawHeights (sample : Random.Sampler) (low high : Float) :
    Random → List Cell → List (Cell × Float)
  | _, [] => []
  | r, cell :: rest =>
    let (x, r) := sample low high r
    (cell, roundedHeight x) :: drawHeights sample low high r rest

def heightRandom (rules : Rules) (w : World) (seed : Option UInt64) (low high : Float) : Step :=
  if !(high - low).isFinite || low > high then .skip w (.invalidRange low high)
  else if w.board.cells.isEmpty then .skip w .noBoard
  else
    let start : Random := ⟨seed.getD rules.clockSeed⟩
    let notes :=
      match seed with
      | some _ => []
      | none => [s!"height-rando seeded from clock: {rules.clockSeed.toNat}"]
    ⟨w.withHeights (drawHeights rules.sample low high start w.board.cells), notes, none⟩

/-! ## Single instructions -/

def step (rules : Rules) (w : World) : Instruction → Step
  | .background reference => .done { w with board := { w.board with background := some reference } }
  | .map id => .done { w with board := { w.board with id } }
  | .grid kind size => .done { w with board := { w.board with grid := kind, cellSize := size } }
  | .board cols rows => .done { w with board := { w.board with cols, rows } }
  | .spriteDef code attrs =>
    .done { w with sprites := Sprite.upsert w.sprites (.ofAttributes code attrs) }
  | .place code cells => w.place code cells
  | .create attrs target => w.create attrs target
  | .height cells => .done (w.withHeights (cells.map fun h => (h.cell, h.value)))
  | .heightRaw text =>
    let (heights, notes) := heightPairs rules.rowBase text
    ⟨w.withHeights heights, notes, none⟩
  | .heightRows rows => w.heightRows rows
  | .heightRandom seed min max => w.heightRandom rules seed min.value max.value
  | .roads cells =>
    .done { w with board := { w.board with roads := w.board.roads.insertAll (cells.map (·, ())) } }
  | .state attrs => w.state rules attrs
  | .move id route => w.move rules id route
  | .attack attacker target kind speed duration => w.attack rules attacker target kind speed duration
  | .effect kind cell duration speed =>
    .done (w.addEffect kind (.cell cell) (.cell cell) (speed.getD rules.animation.effectSpeed)
      (duration.getD rules.animation.effectDuration))
  | .remove id => w.withToken rules id fun id => .done { w with scene := w.scene.remove id }
  | .removeHeightmap => .done { w with board := { w.board with heights := ∅, staysFlat := true } }
  | .clear .tokens => .done { w with scene := w.scene.clearTokens }
  | .clear .all | .reset => .done .empty
  | .initiative .. | .initiativeSet .. => .done w
  | .cameraState | .selection | .viewParams | .tooltip | .unrecognized => .done w

/-! ## Batches -/

def report (i : Instruction) (s : Step) : List Event :=
  s.notes.map .note ++
    [match s.skipped with
      | some cause => .skipped i.tag cause.message
      | none => .applied i.tag]

/-- One instruction of a batch. What only concerns the presentation is passed over. -/
def stepInBatch (rules : Rules) (w : World) (i : Instruction) : World × List Event :=
  if i.isSideChannel then (w, [.note s!"ignored side-channel '{i.tag}'"])
  else
    let s := w.step rules i
    (s.world, report i s)

def run (rules : Rules) : World → List Instruction → World × List Event
  | w, [] => (w, [])
  | w, i :: rest =>
    let (w, here) := stepInBatch rules w i
    let (w, later) := run rules w rest
    (w, here ++ later)

def summary (count : Nat) (w : World) : String :=
  s!"batch of {count} committed: {w.scene.tokens.length} token(s), " ++
    s!"{w.scene.walks.length} move(s), {w.scene.effects.length} effect(s)"

/-- A batch. An empty one changes nothing. -/
def apply (rules : Rules) (w : World) (batch : List Instruction) : World × List Event :=
  if batch.isEmpty then (w, [])
  else
    let (w, events) := run rules w batch
    let w := { w with board := w.board.fillFlat }
    (w, events ++ [.note (summary batch.length w)])

end World

end Tabletop
