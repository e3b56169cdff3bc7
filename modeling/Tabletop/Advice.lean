import Tabletop.Grid
import Tabletop.Roster

/-!
# Advice

What the fighter whose turn it is might do. The nearest opponent is attacked if an attack reaches it,
and otherwise approached as far as the speed allows; defending and ending the turn are always
possible.

* `Roster.advice` lists the suggestions.
* `Roster.instructionsFor` turns an intent into instructions. A move never goes further than the
  speed allows, whatever the intent asks for.
-/

namespace Tabletop

/-- What a fighter may be ordered to do. -/
inductive Intent where
  | moveToCell (token : String) (cell : Cell)
  | moveToward (token target : String)
  | attack (attacker target attack : String)
  | defend (token : String)
  | endTurn (token : String)
deriving DecidableEq

structure Suggestion where
  label : String
  intent : Intent
deriving DecidableEq

structure Advice where
  round : Nat
  activeId : Option String
  activeName : Option String
  /-- The fighter in one line. -/
  summary : String
  suggestions : List Suggestion
deriving DecidableEq

namespace Roster

/-! ## Opponents -/

def friendly : List String := ["pc", "ally"]
def hostile : List String := ["enemy", "npc", "hostile"]

/-- The factions that a faction fights. A faction that is neither friendly nor hostile fights
nobody. -/
def opposing (faction : String) : List String :=
  let faction := String.ofList (Text.foldAscii faction.toList)
  if friendly.contains faction then hostile
  else if hostile.contains faction then friendly
  else []

/-- The cells that a fighter may move in a turn. -/
def moveBudget (r : Roster) (f : Fighter) : Nat :=
  f.speed.toNat / max r.settings.combat.feetPerCell.toNat 1

def distance (r : Roster) (a b : Fighter) : Nat := r.grid.distance a.position b.position

/-- The first of those with the least measure. -/
def leastBy {α : Type} (measure : α → Nat) : List α → Option α
  | [] => none
  | a :: rest =>
    match leastBy measure rest with
    | none => some a
    | some b => if measure a ≤ measure b then some a else some b

/-- The nearest opponent that has hit points left. Of equally near ones the oldest counts. -/
def nearestOpponent? (r : Roster) (f : Fighter) : Option Fighter :=
  leastBy (r.distance f)
    (r.fighters.filter fun t => 0 < t.hp && (opposing f.faction).contains t.faction)

/-! ## Suggestions -/

def feet (r : Roster) (cells : Nat) : Nat :=
  min (cells * r.settings.combat.feetPerCell.toNat) Decimal.word32

def summaryOf (r : Roster) (f : Fighter) : String :=
  let conditions := if f.conditions.isEmpty then "none" else ", ".intercalate f.conditions
  let place := (f.position.reference? r.settings.rowBase).getD f.position.key
  s!"HP {f.hp.toInt}/{f.hpMax.toInt} | speed {f.speed.toNat} ft | at {place} | " ++
    s!"conditions: {conditions}"

/-- What to do about the nearest opponent. -/
def approach (r : Roster) (f target : Fighter) : Suggestion :=
  let distance := r.distance f target
  match f.attacks.find? (·.reach.covers distance) with
  | some attack =>
    ⟨s!"Attack {target.name} with {attack.name} ({r.feet distance} ft)",
      .attack f.id.text target.id.text attack.name⟩
  | none =>
    ⟨s!"Move toward {target.name} ({min distance (r.moveBudget f)} of {distance} cells)",
      .moveToward f.id.text target.id.text⟩

def suggestionsFor (r : Roster) (f : Fighter) : List Suggestion :=
  ((r.nearestOpponent? f).map (r.approach f)).toList ++
    [⟨"Defend", .defend f.id.text⟩, ⟨"End turn", .endTurn f.id.text⟩]

def advice (r : Roster) : Advice :=
  match r.activeFighter? with
  | none => ⟨r.round, r.activeId?, none, "no active combatant", []⟩
  | some f => ⟨r.round, some f.id.text, some f.name, r.summaryOf f, r.suggestionsFor f⟩

/-! ## Intents -/

/-- A move as far toward the goal as the speed allows. No instruction if that leads nowhere. -/
def moveToward (r : Roster) (token : String) (goal : Cell) : List Instruction :=
  match r.fighter? token with
  | none => []
  | some f =>
    let destination := r.grid.clampToward f.position goal (r.moveBudget f)
    if destination = f.position then [] else [.move f.id.text (.to destination)]

/-- An attack that the attacker does not have counts as a physical one. -/
def attackKind (attacker : Fighter) (name : String) : AttackKind :=
  ((attacker.attacks.find? (Text.sameFolded ·.name name)).map (·.kind)).getD .physical

def instructionsFor (r : Roster) : Intent → List Instruction
  | .moveToCell token cell => r.moveToward token cell
  | .moveToward token target =>
    match r.fighter? target with
    | some f => r.moveToward token f.position
    | none => []
  | .attack attacker target attack =>
    match r.fighter? attacker, r.fighter? target with
    | some a, some t => [.attack a.id.text t.id.text (attackKind a attack) none none]
    | _, _ => []
  | .defend _ | .endTurn _ => []

end Roster

end Tabletop
