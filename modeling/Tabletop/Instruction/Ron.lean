import Tabletop.Instruction
import Tabletop.Ron

/-!
# Instructions in parentheses

The form of an instruction for inspection: a structure with the tag in the field `type`, then the
operands.
-/

namespace Tabletop

def Cell.toRon (c : Cell) : Ron := .text c.key

def Attributes.toRon (attrs : Attributes) : Ron :=
  .map (attrs.entries.map fun (k, v) => (k, .text v))

def Target.toRon : Target → Ron
  | .cells cs => .choice "cells" (Ron.listOf Cell.toRon cs)
  | .all => .bare "all"

def Route.toRon : Route → Ron
  | .to cell => .choice "to" cell.toRon
  | .waypoints cs => .choice "waypoints" (Ron.listOf Cell.toRon cs)

def CellHeight.toRon (h : CellHeight) : Ron :=
  .struct [("cell", h.cell.toRon), ("value", Ron.float h.value)]

def InitiativeEntry.toRon (e : InitiativeEntry) : Ron :=
  .struct [("id", .text e.id), ("value", Ron.int e.value.toInt)]

/-- What is no number stands behind its sign. -/
def Bound.toRon : Bound → Ron
  | .number x => Ron.float x
  | .noNumber negative => .bare ((if negative then "-" else "") ++ Ron.numberLayout.nan)

namespace Instruction

def ronOperands : Instruction → List (String × Ron)
  | background reference => [("reference", .text reference)]
  | map id => [("id", .text id)]
  | initiative value ids =>
    [("value", Ron.option (fun v => Ron.int v.toInt) value), ("ids", Ron.listOf .text ids)]
  | initiativeSet entries => [("entries", Ron.listOf InitiativeEntry.toRon entries)]
  | grid kind size => [("grid", .bare kind.name), ("size", Ron.nat size.toNat)]
  | board cols rows => [("cols", Ron.nat cols.toNat), ("rows", Ron.nat rows.toNat)]
  | spriteDef code attrs => [("code", .text code), ("attrs", attrs.toRon)]
  | place code cells => [("code", .text code), ("cells", Ron.listOf Cell.toRon cells)]
  | create attrs target => [("attrs", attrs.toRon), ("target", target.toRon)]
  | height cells => [("cells", Ron.listOf CellHeight.toRon cells)]
  | heightRaw raw => [("text", .text raw)]
  | heightRows rows => [("rows", Ron.listOf .text rows)]
  | heightRandom seed min max =>
    [("seed", Ron.option (fun s => Ron.nat s.toNat) seed), ("min", min.toRon),
      ("max", max.toRon)]
  | roads cells => [("cells", Ron.listOf Cell.toRon cells)]
  | state attrs => [("attrs", attrs.toRon)]
  | move id path => [("id", .text id), ("path", path.toRon)]
  | attack attacker target kind speed duration =>
    [("attacker", .text attacker), ("target", .text target), ("kind", .bare kind.name),
      ("speed", Ron.option Ron.float speed), ("duration", Ron.option Ron.float duration)]
  | effect kind cell duration speed =>
    [("kind", .text kind), ("at", cell.toRon), ("duration", Ron.option Ron.float duration),
      ("speed", Ron.option Ron.float speed)]
  | remove id => [("id", .text id)]
  | clear scope => [("scope", .bare scope.name)]
  | removeHeightmap | reset | cameraState | selection | viewParams | tooltip | unrecognized => []

def toRon (i : Instruction) : Ron := .struct (("type", .text i.tag) :: i.ronOperands)

def listRon (instructions : List Instruction) : String := (Ron.listOf toRon instructions).pretty

end Instruction

end Tabletop
