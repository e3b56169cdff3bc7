import Tabletop.Cell

/-!
# Settings of a table

Every setting has a default, so that any part of them may be left out.
-/

namespace Tabletop

namespace Settings

structure Animation where
  /-- Multiplies the time that passes for moves and effects. -/
  speedScale : Float := 1.0
  /-- Walking speed of a token before scaling. -/
  cellsPerSecond : Float := 4.0
  /-- The distance under which a token snaps onto its waypoint. -/
  arrivalEpsilon : Float := 1e-3
  attackDuration : Float := 0.6
  attackSpeed : Float := 1.0
  effectDuration : Float := 1.5
  effectSpeed : Float := 1.0
deriving DecidableEq

structure Combat where
  feetPerCell : UInt32 := 5
  /-- Hit points of a token whose definition names none. -/
  defaultHp : Int32 := 10
deriving DecidableEq

end Settings

structure Settings where
  rowBase : RowBase := .one
  animation : Settings.Animation := {}
  combat : Settings.Combat := {}
  /-- A reference that is no id stands for the first token whose id begins with it. -/
  byBeginning : Bool := false
  /-- Milliseconds between two polls of a follower. -/
  pollInterval : Nat := 1000
deriving DecidableEq

end Tabletop
