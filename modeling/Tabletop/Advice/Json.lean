import Tabletop.Advice
import Tabletop.Instruction.Json

/-!
# Advice as JSON

An intent is a record with its kind in the field `kind` and its parts in further fields.
`Intent.ofJson?` reads what `Intent.toJson` writes, and passes over further fields.
-/

namespace Tabletop

open Json

namespace Intent

def kind : Intent → String
  | moveToCell .. => "move-to-cell"
  | moveToward .. => "move-toward"
  | attack .. => "attack"
  | defend .. => "defend"
  | endTurn .. => "end-turn"

def parts : Intent → List (String × Json)
  | moveToCell token cell => [("token_id", .text token), ("cell", cell.toJson)]
  | moveToward token target => [("token_id", .text token), ("target_id", .text target)]
  | attack attacker target name =>
    [("attacker_id", .text attacker), ("target_id", .text target), ("attack", .text name)]
  | defend token | endTurn token => [("token_id", .text token)]

def toJson (i : Intent) : Json := .record (("kind", .text i.kind) :: i.parts)

/-- The names of the parts that belong to a kind. -/
def partNames (kind : String) : List String :=
  match kind with
  | "move-to-cell" => ["token_id", "cell"]
  | "move-toward" => ["token_id", "target_id"]
  | "attack" => ["attacker_id", "target_id", "attack"]
  | _ => ["token_id"]

def ofParts? (kind : String) (parts : List (Option Json)) : Option Intent :=
  match kind, parts with
  | "move-to-cell", [token, cell] =>
    return .moveToCell (← required asText? token) (← required Cell.ofJson? cell)
  | "move-toward", [token, target] =>
    return .moveToward (← required asText? token) (← required asText? target)
  | "attack", [attacker, target, name] =>
    return .attack (← required asText? attacker) (← required asText? target)
      (← required asText? name)
  | "defend", [token] => return .defend (← required asText? token)
  | "end-turn", [token] => return .endTurn (← required asText? token)
  | _, _ => none

/-- An intent is a record with a kind, or a list of the kind and the parts. -/
def ofJson? : Json → Option Intent
  | .record fields => do
    let kind ← required asText? (← single? "kind" fields)
    ofParts? kind (← fields? (partNames kind) (.record fields))
  | .list (.text kind :: parts) => do
    ofParts? kind (← fields? (partNames kind) (.list parts))
  | _ => none

end Intent

def Suggestion.toJson (s : Suggestion) : Json :=
  .record [("label", .text s.label), ("intent", s.intent.toJson)]

def Advice.toJson (a : Advice) : Json :=
  .record
    [("round", nat a.round), ("active_id", option .text a.activeId),
      ("active_name", option .text a.activeName), ("info", .text a.summary),
      ("suggestions", listOf Suggestion.toJson a.suggestions)]

end Tabletop
