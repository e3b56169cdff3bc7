import Tabletop.Text.Pieces

/-!
# Styles of texts on a terminal

A style is a colour and perhaps bold, italic or underlined letters. One escape sequence opens it and
one closes it. The closing sequence ends every style at once; so where a styled text holds one
already, the style is opened again after it.

* `Style.paint` gives a text a style, and leaves it as it is where colours are not wanted.
* `Style.ofFaction` is the style of a token's name.
-/

namespace Tabletop.Console

structure Style where
  bold : Bool := false
  italic : Bool := false
  underlined : Bool := false
  red : Nat
  green : Nat
  blue : Nat
deriving DecidableEq

namespace Style

/-! ## Escape sequences -/

def escape (codes : String) : String := "\x1b[" ++ codes ++ "m"

def closing : String := escape "0"

def codes (s : Style) : List Nat :=
  (if s.bold then [1] else []) ++ (if s.italic then [3] else []) ++
    (if s.underlined then [4] else []) ++ [38, 2, s.red, s.green, s.blue]

def opening (s : Style) : String := escape (";".intercalate (s.codes.map toString))

def paint (s : Style) (colored : Bool) (text : String) : String :=
  if colored then
    let again := Text.replace closing.toList (closing ++ s.opening).toList text.toList
    s.opening ++ String.ofList again ++ closing
  else text

/-! ## The styles of the table -/

def token : Style where
  red := 220
  green := 180
  blue := 40

def ally : Style where
  bold := true
  red := 13
  green := 170
  blue := 60

def enemy : Style where
  bold := true
  red := 210
  green := 50
  blue := 50

def coord : Style where
  red := 102
  green := 208
  blue := 250

def heading : Style where
  underlined := true
  red := 223
  green := 77
  blue := 10

def suggestion : Style where
  italic := true
  red := 230
  green := 230
  blue := 30

def info : Style where
  italic := true
  red := 75
  green := 180
  blue := 255

def warning : Style where
  red := 230
  green := 150
  blue := 30

def error : Style where
  bold := true
  red := 230
  green := 30
  blue := 30

def bracket : Style where
  red := 75
  green := 80
  blue := 75

/-- The name of a section in brackets. -/
def sectionTitle (colored : Bool) (name : String) : String := bracket.paint colored ("[" ++ name ++ "]")

def ofFaction (faction : String) : Style :=
  if ["pc", "ally"].contains faction then ally
  else if ["enemy", "npc", "hostile"].contains faction then enemy
  else token

end Style

end Tabletop.Console
