import Tabletop.Attack
import Tabletop.Attributes
import Tabletop.Cell
import Tabletop.Decimal.Reading
import Tabletop.Grid

/-!
# Instructions

Every directive of a script becomes one instruction. The same instructions build the world, feed
the turn tracker and travel to the followers of a table.

* `tag` is the name of an instruction in texts and reports.
* `isSideChannel` holds for the instructions that only concern the presentation, and for unknown
  ones.
* `wipesWorld` holds for the instructions after which nothing from before is left.
* `rowsExtent` is the size of board that a block of height rows covers.
-/

namespace Tabletop

/-- Where a `CREATE` puts its tokens. -/
inductive Target where
  | cells (cells : List Cell)
  | all
deriving DecidableEq

/-- Where a `MOVE` goes: on a straight leg to one cell, or from waypoint to waypoint. -/
inductive Route where
  | to (cell : Cell)
  | waypoints (cells : List Cell)
deriving DecidableEq

namespace Route

def ofCells? : List Cell → Option Route
  | [] => none
  | [cell] => some (.to cell)
  | cells => some (.waypoints cells)

def cells : Route → List Cell
  | .to cell => [cell]
  | .waypoints cells => cells

def destination? (r : Route) : Option Cell := r.cells.getLast?

end Route

inductive ClearScope where
  | tokens
  | all
deriving DecidableEq

namespace ClearScope

def name : ClearScope → String
  | tokens => "tokens"
  | all => "all"

def ofName? (s : String) : Option ClearScope :=
  if s = "tokens" then some .tokens else if s = "all" then some .all else none

end ClearScope

structure CellHeight where
  cell : Cell
  value : Float
deriving DecidableEq

structure InitiativeEntry where
  id : String
  value : Int32
deriving DecidableEq

/-- A bound of random heights. What is no number keeps its sign here, although a height has none. -/
inductive Bound where
  | number (x : Float)
  | noNumber (negative : Bool)
deriving DecidableEq

namespace Bound

def value : Bound → Float
  | .number x => x
  | .noNumber _ => Decimal.notANumber

def read? (cs : List Char) : Option Bound :=
  (Decimal.readFloat? cs).map fun x =>
    if x.isNaN then .noNumber (cs.head? == some '-') else .number x

end Bound

inductive Instruction where
  | background (reference : String)
  | map (id : String)
  /-- One value for several tokens, or without a value their bare order. -/
  | initiative (value : Option Int32) (ids : List String)
  | initiativeSet (entries : List InitiativeEntry)
  | grid (kind : Grid) (size : UInt32)
  | board (cols rows : UInt32)
  | spriteDef (code : String) (attrs : Attributes)
  | place (code : String) (cells : List Cell)
  | create (attrs : Attributes) (target : Target)
  | height (cells : List CellHeight)
  /-- The text of a `HEIGHT` directive with the lines that go on with it. -/
  | heightRaw (text : String)
  /-- The lines of a height block. -/
  | heightRows (rows : List String)
  | heightRandom (seed : Option UInt64) (min max : Bound)
  | roads (cells : List Cell)
  | state (attrs : Attributes)
  | move (id : String) (path : Route)
  | attack (attacker target : String) (kind : AttackKind) (speed duration : Option Float)
  | effect (kind : String) (at' : Cell) (duration speed : Option Float)
  | remove (id : String)
  | removeHeightmap
  | clear (scope : ClearScope)
  | reset
  | cameraState
  | selection
  | viewParams
  | tooltip
  /-- An instruction of an unknown kind. -/
  | unrecognized
deriving DecidableEq

namespace Instruction

def tag : Instruction → String
  | background .. => "background"
  | map .. => "map"
  | initiative .. => "initiative"
  | initiativeSet .. => "initiative-set"
  | grid .. => "grid"
  | board .. => "board"
  | spriteDef .. => "sprite-def"
  | place .. => "place"
  | create .. => "create"
  | height .. => "height"
  | heightRaw .. => "height-raw"
  | heightRows .. => "height-rows"
  | heightRandom .. => "height-rando"
  | roads .. => "roads"
  | state .. => "state"
  | move .. => "move"
  | attack .. => "attack"
  | effect .. => "effect"
  | remove .. => "remove"
  | removeHeightmap => "remove-heightmap"
  | clear .. => "clear"
  | reset => "reset"
  | cameraState => "camera-state"
  | selection => "selection"
  | viewParams => "view-params"
  | tooltip => "tooltip"
  | unrecognized => "unrecognized"

def isSideChannel : Instruction → Bool
  | cameraState | selection | viewParams | tooltip | unrecognized => true
  | _ => false

def wipesWorld : Instruction → Bool
  | reset | clear .all => true
  | _ => false

/-- The widest row, counted in entries between commas, and the number of rows. -/
def rowsExtent (rows : List String) : UInt32 × UInt32 :=
  let widest := rows.foldl (fun n row => max n (row.toList.splitOn ',').length) 0
  (UInt32.ofNat (min widest Decimal.word32), UInt32.ofNat (min rows.length Decimal.word32))

end Instruction

end Tabletop
