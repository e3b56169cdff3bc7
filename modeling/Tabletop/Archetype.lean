import Tabletop.Text.Letters
import Tabletop.Text.Pieces

/-!
# Built-in archetypes

Tokens that a script may place without declaring them. The art of an archetype is a drawing with
places for a fill, a stroke and a label.

* `Archetype.find?` looks an archetype up by its name, without regard to case.
* `Archetype.draw` fills the places in, one after the other, each in the result of the one before.
-/

namespace Tabletop

structure Archetype where
  id : String
  name : String
  category : String
  faction : String
  /-- Feet per turn. -/
  speed : UInt32
  /-- Footprint in cells. -/
  size : Float
  fill : String
  stroke : String
  hp : Int32
  attacks : String
  art : String

namespace Archetype

/-! ## Drawings -/

/-- The mark in a drawing where a value goes. -/
def place (name : String) : String := "\x7b\x7b" ++ name ++ "\x7d\x7d"

def painted (width : String) : String :=
  "fill=\"" ++ place "fill" ++ "\" stroke=\"" ++ place "stroke" ++ "\" stroke-width=\"" ++
    width ++ "\""

/-- A drawing of one shape with the label over it. -/
def drawing (shape fontSize : String) : String :=
  "<svg xmlns=\"http://www.w3.org/2000/svg\" viewBox=\"0 0 64 64\">" ++
    "<" ++ shape ++ " " ++ painted "4" ++ "/>" ++
    "<text x=\"32\" y=\"40\" text-anchor=\"middle\" font-size=\"" ++ fontSize ++ "\" fill=\"" ++
    place "stroke" ++ "\">" ++ place "label" ++ "</text></svg>"

def roundArt : String := drawing "circle cx=\"32\" cy=\"32\" r=\"28\"" "22"

def shieldArt : String :=
  drawing "path d=\"M32 4 L58 14 L54 42 L32 60 L10 42 L6 14 Z\"" "20"

def squareArt : String :=
  drawing "rect x=\"6\" y=\"6\" width=\"52\" height=\"52\" rx=\"8\"" "20"

/-! ## The library -/

def goblin : Archetype where
  id := "goblin"
  name := "Goblin"
  category := "creature"
  faction := "enemy"
  speed := 30
  size := 1.0
  fill := "#5c8a3a"
  stroke := "#1f2d14"
  hp := 7
  attacks := "Scimitar|melee|+4|1d6+2|1/1;Shortbow|ranged|+4|1d6+2|2/16"
  art := roundArt

def orc : Archetype where
  id := "orc"
  name := "Orc"
  category := "creature"
  faction := "enemy"
  speed := 30
  size := 1.0
  fill := "#6b7d3c"
  stroke := "#26300f"
  hp := 15
  attacks := "Greataxe|melee|+5|1d12+3|1/1;Javelin|ranged|+5|1d6+3|2/6"
  art := roundArt

def skeleton : Archetype where
  id := "skeleton"
  name := "Skeleton"
  category := "undead"
  faction := "hostile"
  speed := 30
  size := 1.0
  fill := "#e8e2cf"
  stroke := "#4a4536"
  hp := 13
  attacks := "Shortsword|melee|+4|1d6+2|1/1;Shortbow|ranged|+4|1d6+2|2/16"
  art := roundArt

def wolf : Archetype where
  id := "wolf"
  name := "Wolf"
  category := "beast"
  faction := "hostile"
  speed := 40
  size := 1.0
  fill := "#8a8a8a"
  stroke := "#2b2b2b"
  hp := 11
  attacks := "Bite|melee|+4|2d4+2|1/1"
  art := roundArt

def hero : Archetype where
  id := "hero"
  name := "Hero"
  category := "character"
  faction := "pc"
  speed := 30
  size := 1.0
  fill := "#2f6fd0"
  stroke := "#0d2247"
  hp := 24
  attacks := "Longsword|melee|+5|1d8+3|1/1"
  art := shieldArt

def archer : Archetype where
  id := "archer"
  name := "Archer"
  category := "character"
  faction := "ally"
  speed := 30
  size := 1.0
  fill := "#3fa36b"
  stroke := "#103522"
  hp := 18
  attacks := "Longbow|ranged|+6|1d8+3|2/30;Dagger|melee|+4|1d4+2|1/1"
  art := shieldArt

def mage : Archetype where
  id := "mage"
  name := "Mage"
  category := "character"
  faction := "ally"
  speed := 30
  size := 1.0
  fill := "#7a4fc9"
  stroke := "#24123f"
  hp := 14
  attacks := "Fire Bolt|ranged spell|+6|1d10|1/24;Staff|melee|+2|1d6|1/1"
  art := shieldArt

def tree : Archetype where
  id := "tree"
  name := "Tree"
  category := "terrain"
  faction := "neutral"
  speed := 0
  size := 1.0
  fill := "#2e6b2e"
  stroke := "#123012"
  hp := 0
  attacks := ""
  art := roundArt

def rock : Archetype where
  id := "rock"
  name := "Rock"
  category := "terrain"
  faction := "neutral"
  speed := 0
  size := 1.0
  fill := "#7d7468"
  stroke := "#302b25"
  hp := 0
  attacks := ""
  art := squareArt

def barrel : Archetype where
  id := "barrel"
  name := "Barrel"
  category := "object"
  faction := "neutral"
  speed := 0
  size := 1.0
  fill := "#8b5a2b"
  stroke := "#3b230e"
  hp := 5
  attacks := ""
  art := squareArt

def library : List Archetype :=
  [goblin, orc, skeleton, wolf, hero, archer, mage, tree, rock, barrel]

def find? (id : String) : Option Archetype := library.find? fun a => Text.sameFolded a.id id

/-! ## Filling in -/

def escaped (label : String) : String :=
  let amp := Text.replace ['&'] "&amp;".toList label.toList
  let less := Text.replace ['<'] "&lt;".toList amp
  let greater := Text.replace ['>'] "&gt;".toList less
  String.ofList (Text.replace ['"'] "&quot;".toList greater)

def fillIn (name value art : String) : String :=
  String.ofList (Text.replace (place name).toList value.toList art.toList)

/-- The drawing with a label; its fill may be given, too. -/
def draw (a : Archetype) (label : String) (fill : Option String) : String :=
  fillIn "label" (escaped label) (fillIn "stroke" a.stroke (fillIn "fill" (fill.getD a.fill) a.art))

end Archetype

end Tabletop
