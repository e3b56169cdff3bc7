import Tabletop.Event
import Tabletop.Instruction
import Tabletop.Settings
import Tabletop.Sprite
import Tabletop.TokenId
import Tabletop.World

/-!
# The roster

The turn tracker has a view of its own on the battle: who takes part, with how many hit points, and
whose turn it is. It is fed by the same instructions as the world. Its tokens stand at the end of a
walk at once, since the walk itself is only shown.

* `Roster.turnOrder` is the order of turns: the order of creation, until initiative gives another.
* `Roster.step` follows one instruction, and tells the cause when it cannot.
* `Roster.apply` follows a batch; an instruction that cannot be followed is reported and left out.
-/

namespace Tabletop

/-! ## Fighters -/

structure Fighter where
  id : TokenId
  name : String
  faction : String
  hp : Int32
  hpMax : Int32
  position : Cell
  /-- Feet per turn. -/
  speed : UInt32
  attacks : List Attack
  conditions : List String
deriving DecidableEq

namespace Fighter

/-- One entry of a list of conditions: `none` takes all conditions away, a minus sign takes one
away, and everything else is added if it is new. -/
def changeCondition (conditions : List String) (entry : String) : List String :=
  if Text.sameFolded entry "none" then []
  else
    match Text.after? ['-'] entry.toList with
    | some removed => conditions.filter fun c => !Text.sameFolded c (String.ofList removed)
    | none =>
      if conditions.any (Text.sameFolded · entry) then conditions
      else conditions ++ [Text.lowered entry]

def conditionEntries (list : String) : List String :=
  (((list.toList.splitOn ',').map Text.trim).filter (! ·.isEmpty)).map String.ofList

/-- The attributes of a `STATE` or a `CREATE` that concern the battle. -/
def withAttributes (f : Fighter) (attrs : Attributes) : Fighter :=
  let read := fun {α : Type} (keys : List String) (read : List Char → Option α) =>
    (attrs.first? keys).bind fun s => read s.toList
  { f with
    name := (attrs.get? "name").getD f.name
    faction := ((attrs.get? "faction").map Text.lowered).getD f.faction
    speed := (read ["speed"] Decimal.readUInt32?).getD f.speed
    hpMax := (read ["hpmax", "hp_max"] Decimal.readInt32?).getD f.hpMax
    hp := (read ["hp"] Decimal.readInt32?).getD f.hp
    conditions :=
      match attrs.first? ["conditions", "condition"] with
      | some list => (conditionEntries list).foldl changeCondition f.conditions
      | none => f.conditions }

def spawn (id : TokenId) (sprite : Sprite) (cell : Cell) (defaultHp : Int32) (attrs : Attributes) :
    Fighter :=
  let hp := sprite.hp.getD defaultHp
  let fighter : Fighter :=
    { id
      name := sprite.name
      faction := sprite.faction
      hp
      hpMax := hp
      position := cell
      speed := sprite.speed
      attacks := sprite.attacks
      conditions := [] }
  fighter.withAttributes attrs

end Fighter

/-! ## The roster -/

structure Roster where
  settings : Settings
  /-- In the order of their creation. -/
  fighters : List Fighter
  /-- How many rounds have begun. The count wraps around at 32 bits. -/
  rounds : UInt32
  /-- The order of turns that initiative has given. -/
  order : Option (List String)
  /-- The initiative values behind the order, as they were given. -/
  values : List (String × Int32)
  /-- Whose turn it is, as a place in the order of turns. -/
  active : Nat
  grid : Grid
  sprites : List Sprite
  cols : UInt32
  rows : UInt32
deriving DecidableEq

/-- Why an instruction cannot be followed. -/
inductive Unfollowed where
  | unknownDefinition (code : String)
  | noDefinition
  | emptyPath
  | unknownToken (reference : String)
  | noId
deriving DecidableEq

def Unfollowed.message : Unfollowed → String
  | .unknownDefinition code => s!"unknown definition '{code}'"
  | .noDefinition => "no definition attribute"
  | .emptyPath => "empty path"
  | .unknownToken reference => s!"unknown token '{reference}'"
  | .noId => "missing id attribute"

namespace Roster

def empty (settings : Settings) : Roster where
  settings := settings
  fighters := []
  rounds := 1
  order := none
  values := []
  active := 0
  grid := .square
  sprites := []
  cols := 0
  rows := 0

/-! ## Look-up -/

def ids (r : Roster) : List TokenId := r.fighters.map (·.id)

/-- The fighter that a reference names by its id; failing that, if the settings say so, the first one
whose id begins with it. -/
def fighter? (r : Roster) (reference : String) : Option Fighter :=
  let exact := (TokenId.ofText? reference).bind fun id => r.fighters.find? (·.id == id)
  exact <|>
    (if r.settings.byBeginning then r.fighters.find? (·.id.beginsWith reference) else none)

/-- The id that a reference of the turn order stands for. A reference that is unknown so far stays
as it is. -/
def canonical (r : Roster) (reference : String) : String :=
  ((r.fighter? reference).map (·.id.text)).getD reference

/-! ## Turns -/

/-- The number of the round that is on. -/
def round (r : Roster) : Nat := r.rounds.toNat

def turnOrder (r : Roster) : List String := r.order.getD (r.ids.map (·.text))

def activeId? (r : Roster) : Option String := r.turnOrder[r.active]?

def activeFighter? (r : Roster) : Option Fighter := r.activeId?.bind r.fighter?

/-- The turn goes to the next one in the order. After the last one a new round begins. -/
def nextTurn (r : Roster) : Roster :=
  if r.turnOrder.isEmpty then r
  else if r.active + 1 < r.turnOrder.length then { r with active := r.active + 1 }
  else { r with active := 0, rounds := r.rounds + 1 }

/-! ## Initiative -/

/-- The values from high to low. Equal ones stay in the order in which they were given. -/
def byValue (values : List (String × Int32)) : List (String × Int32) :=
  values.mergeSort fun a b => b.2 ≤ a.2

/-- Takes over initiative values and with them a new order, which begins with its first turn. -/
def withValues (r : Roster) (values : List (String × Int32)) : Roster :=
  { r with values, order := some ((byValue values).map (·.1)), active := 0 }

def setValue (values : List (String × Int32)) (id : String) (value : Int32) :
    List (String × Int32) :=
  if values.any (·.1 == id) then updateFirst (·.1 == id) (fun _ => (id, value)) values
  else values ++ [(id, value)]

/-- A bare order of turns. -/
def withOrder (r : Roster) (ids : List String) : Roster :=
  { r with order := some (ids.map r.canonical), active := 0 }

/-! ## Fighters come and go -/

/-- One fighter with the stem for each cell. -/
def spawn (sprite : Sprite) (stem : String) (attrs : Attributes) (r : Roster) : List Cell → Roster
  | [] => r
  | cell :: rest =>
    let fighter :=
      Fighter.spawn (TokenId.next stem r.ids) sprite cell r.settings.combat.defaultHp attrs
    spawn sprite stem attrs { r with fighters := r.fighters ++ [fighter] } rest

/-- The place of the turn after somebody has left: it stays with the one who has it. -/
def placeOfTurn (before : Option String) (place : Nat) (order : List String) : Nat :=
  match before.bind fun id => order.findIdx? (· == id) with
  | some i => i
  | none => if order.length ≤ place then 0 else place

def remove (r : Roster) (id : TokenId) : Roster :=
  let rest : Roster :=
    { r with
      fighters := r.fighters.filter (·.id != id)
      order := r.order.map (·.filter (· != id.text))
      values := r.values.filter (·.1 != id.text) }
  { rest with active := placeOfTurn r.activeId? r.active rest.turnOrder }

/-- Without fighters there is no initiative. -/
def withoutFighters (r : Roster) : Roster :=
  { r with fighters := [], order := none, values := [], active := 0 }

/-! ## Instructions -/

/-- The definition that a reference stands for, and the roster that knows it. -/
def define (r : Roster) (reference : String) : Except Unfollowed (Sprite × Roster) :=
  match Sprite.resolve? r.sprites reference with
  | some (sprite, sprites) => .ok (sprite, { r with sprites })
  | none => .error (.unknownDefinition reference)

def create (r : Roster) (attrs : Attributes) (target : Target) : Except Unfollowed Roster :=
  match attrs.reference? with
  | none => .error .noDefinition
  | some reference => do
    let (sprite, r) ← r.define reference
    let cells :=
      match target with
      | .cells cells => cells
      | .all => Board.cellsOf r.cols r.rows
    return r.spawn sprite (attrs.stem?.getD reference) attrs cells

/-- A change of the fighter that a reference stands for. -/
def change (r : Roster) (reference : String) (f : Fighter → Fighter) : Except Unfollowed Roster :=
  match r.fighter? reference with
  | some fighter =>
    .ok { r with fighters := updateFirst (·.id == fighter.id) f r.fighters }
  | none => .error (.unknownToken reference)

def step (r : Roster) : Instruction → Except Unfollowed Roster
  | .grid kind _ => .ok { r with grid := kind }
  | .board cols rows => .ok { r with cols, rows }
  | .heightRows lines =>
    let (cols, rows) := Instruction.rowsExtent lines
    .ok { r with cols := max r.cols cols, rows := max r.rows rows }
  | .spriteDef code attrs =>
    .ok { r with sprites := Sprite.upsert r.sprites (.ofAttributes code attrs) }
  | .place code cells => do
    let (sprite, r) ← r.define code
    return r.spawn sprite code ∅ cells
  | .create attrs target => r.create attrs target
  | .move id route =>
    match route.destination? with
    | some position => r.change id ({ · with position })
    | none => .error .emptyPath
  | .state attrs =>
    match attrs.first? ["id", "token"] with
    | some id => r.change id (·.withAttributes attrs)
    | none => .error .noId
  | .remove id =>
    match r.fighter? id with
    | some fighter => .ok (r.remove fighter.id)
    | none => .error (.unknownToken id)
  | .initiativeSet entries => .ok (r.withValues (entries.map fun e => (r.canonical e.id, e.value)))
  | .initiative (some value) ids =>
    .ok (r.withValues ((ids.map r.canonical).foldl (setValue · · value) r.values))
  | .initiative none ids => .ok (r.withOrder ids)
  | .clear .tokens => .ok r.withoutFighters
  | .clear .all | .reset => .ok (empty r.settings)
  | _ => .ok r

def apply : Roster → List Instruction → Roster × List Event
  | r, [] => (r, [])
  | r, i :: rest =>
    match r.step i with
    | .ok r => apply r rest
    | .error cause =>
      let (r, events) := apply r rest
      (r, .skipped i.tag ("combat: " ++ cause.message) :: events)

end Roster

end Tabletop
