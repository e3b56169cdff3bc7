import Tabletop.Archetype
import Tabletop.Attack
import Tabletop.Attributes
import Tabletop.Decimal.Reading

/-!
# Definitions

A definition is what tokens are made from. It is declared by a script, or taken from the library of
archetypes when it is used for the first time.

* `Sprite.ofAttributes` builds a declared definition, `Sprite.ofArchetype` a built-in one.
* `Sprite.upsert` adds a definition in place of the one with its code; `Sprite.resolve?` looks a
  definition up for use. Codes are compared without regard to case.
-/

namespace Tabletop

structure Sprite where
  id : String
  code : String
  name : String
  category : String
  art : Option String
  model : Option String
  size : Float
  tint : Option String
  faction : String
  /-- Feet per turn. -/
  speed : UInt32
  hp : Option Int32
  attacks : List Attack
deriving DecidableEq

namespace Sprite

/-! ## Building -/

def plain (code : String) : Sprite where
  id := code
  code := code
  name := code
  category := "creature"
  art := none
  model := none
  size := 1.0
  tint := none
  faction := "neutral"
  speed := 30
  hp := none
  attacks := []

def ofArchetype (a : Archetype) : Sprite where
  id := a.id
  code := a.id
  name := a.name
  category := a.category
  art := some (a.draw (String.ofList (a.name.toList.take 1)) none)
  model := none
  size := a.size
  tint := some a.fill
  faction := a.faction
  speed := a.speed
  hp := some a.hp
  attacks := Attack.listOf a.attacks

/-- The attribute keys of a faction and of a picture. -/
def factionKeys : List String := ["faction", "team", "side"]
def artKeys : List String := ["art", "sprite", "image", "svg"]

/-- A definition declared with attributes. An archetype that the attribute `template` names is where
it starts from; every other attribute that is given counts over it. -/
def ofAttributes (code : String) (attrs : Attributes) : Sprite :=
  let start := (((attrs.get? "template").bind Archetype.find?).map ofArchetype).getD (plain code)
  { id := code
    code := code
    name := (attrs.given? ["name"]).getD start.name
    category := (attrs.given? ["category", "type", "kind"]).getD start.category
    art := attrs.given? artKeys <|> start.art
    model := attrs.given? ["model"] <|> start.model
    size := (attrs.read? ["size", "base_size"] Decimal.readFloat?).getD start.size
    tint := attrs.given? ["color", "tint", "fill"] <|> start.tint
    faction := ((attrs.given? factionKeys).map Text.lowered).getD start.faction
    speed := (attrs.read? ["speed"] Decimal.readUInt32?).getD start.speed
    hp := attrs.read? ["hp", "hpmax"] Decimal.readInt32? <|> start.hp
    attacks := ((attrs.given? ["attacks"]).map Attack.listOf).getD start.attacks }

/-! ## Look-up -/

def isNamed (s : Sprite) (reference : String) : Bool :=
  Text.sameFolded s.code reference || Text.sameFolded s.id reference

def lookup? (sprites : List Sprite) (reference : String) : Option Sprite :=
  sprites.find? (·.isNamed reference)

/-- The definition takes the place of the first one with its code, or goes to the end. -/
def upsert : List Sprite → Sprite → List Sprite
  | [], sprite => [sprite]
  | s :: rest, sprite =>
    if Text.sameFolded s.code sprite.code then sprite :: rest else s :: upsert rest sprite

/-- The definition that a reference stands for, and the definitions afterwards: an archetype joins
them when it is used. -/
def resolve? (sprites : List Sprite) (reference : String) : Option (Sprite × List Sprite) :=
  match lookup? sprites reference with
  | some sprite => some (sprite, sprites)
  | none =>
    (Archetype.find? reference).map fun a =>
      let sprite := ofArchetype a
      (sprite, upsert sprites sprite)

end Sprite

end Tabletop
