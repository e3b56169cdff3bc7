import Tabletop.Script.Terminals

/-!
# The forms of a directive

A line that has the form of a directive becomes a `Form`: the kind of the directive with its
operands as they are written.

* `Form.read?` tries the forms in order. The first one that fits the front of the line is taken; if
  something is left of the line then, no other form is tried.
* `isHeightPairs` recognises a line that goes on with a `HEIGHT` directive.
-/

namespace Tabletop.Script

/-- An option of an attack or an effect. -/
inductive Timing where
  | speed (value : List Char)
  | duration (value : List Char)
deriving DecidableEq

inductive Form where
  | background (reference : List Char)
  | map (id : List Char)
  | initiativeSet (entries : List (List Char × List Char))
  | initiative (value : Option (List Char)) (ids : List (List Char))
  | grid (hex : Bool) (size : Option (List Char))
  | board (cols rows : List Char)
  | spriteDef (code : List Char) (attrs : List (List Char × List Char))
  | place (code : List Char) (items : List (List Char))
  /-- Without items the tokens go to all cells. -/
  | create (attrs : List (List Char × List Char)) (items : Option (List (List Char)))
  | heightRandom (attrs : List (List Char × List Char))
  | heightStart
  | heightEnd
  | height (text : List Char)
  | roads (items : List (List Char))
  | state (attrs : List (List Char × List Char))
  | move (id : List Char) (items : List (List Char))
  | attack (attacker target : List Char) (magic : Bool) (timings : List Timing)
  | effect (kind item : List Char) (timings : List Timing)
  | removeHeightmap
  | remove (id : List Char)
  | clear (all : Bool)
  | reset
deriving DecidableEq

namespace Form

/-! ## Operands -/

/-- One or more characters of any kind. -/
def rest? : Reader (List Char) := fun cs =>
  match skip cs with
  | [] => none
  | text => some (text, [])

def initiativePair? : Reader (List Char × List Char) := fun cs => do
  let (id, rest) ← reference? cs
  match rest with
  | '=' :: rest =>
    let (value, rest) ← int? rest
    return ((id, value), rest)
  | _ => none

/-- A value that stands before all ids: a blank or a comma follows it. -/
def initiativeValue? : Reader (List Char) := fun cs => do
  let (value, rest) ← int? (skip cs)
  match rest with
  | c :: _ => if isGap c || c == ',' then some (value, rest) else none
  | [] => none

/-- The first of two keywords that fits. -/
def either? (first second : String) : Reader Bool := fun cs =>
  (keyword? first cs).map (false, ·) <|> (keyword? second cs).map (true, ·)

def sizeOption? : Reader (List Char) := fun cs => do uint? (← keyword? "SIZE" cs)

def speed? : Reader Timing := fun cs => do
  let (value, rest) ← number? (skip (← keyword? "SPEED" cs))
  return (.speed value, rest)

def duration? : Reader Timing := fun cs => do
  let (value, rest) ← number? (skip (← keyword? "DURATION" cs <|> keyword? "DUR" cs))
  return (.duration value, rest)

def timings (cs : List Char) : List Timing × List Char :=
  many (fun cs => speed? cs <|> duration? cs) cs

def arrow? (cs : List Char) : Option (List Char) :=
  match skip cs with
  | '-' :: '>' :: rest => some rest
  | _ => none

/-! ## Directives -/

def background? : Reader Form := fun cs => do
  let (text, cs) ← rest? (← keyword? "BACKGROUND" cs)
  return (.background text, cs)

def map? : Reader Form := fun cs => do
  let (id, cs) ← item? (← keyword? "MAP" cs)
  return (.map id, cs)

def initiativeSet? : Reader Form := fun cs => do
  let (entries, cs) ← separated? initiativePair? (← keyword? "INITIATIVE" cs)
  return (.initiativeSet entries, cs)

def valuedIds? : Reader Form := fun cs => do
  let (value, cs) ← initiativeValue? cs
  let (ids, cs) ← separated? reference? (dropComma cs)
  return (.initiative (some value) ids, cs)

def bareIds? : Reader Form := fun cs => do
  let (ids, cs) ← separated? reference? cs
  return (.initiative none ids, cs)

def initiative? : Reader Form := fun cs => do
  let cs ← keyword? "INITIATIVE" cs
  valuedIds? cs <|> bareIds? cs

def grid? : Reader Form := fun cs => do
  let (hex, cs) ← either? "SQUARE" "HEX" (← keyword? "GRID" cs)
  match sizeOption? cs with
  | some (size, cs) => return (.grid hex (some size), cs)
  | none => return (.grid hex none, cs)

/-- The mark between the counts of a board may be followed by a digit at once. -/
def board? : Reader Form := fun cs => do
  let (cols, cs) ← uint? (← keyword? "BOARD" cs)
  let (rows, cs) ← uint? (← word? ['X'] (skip cs))
  return (.board cols rows, cs)

def spriteDef? : Reader Form := fun cs => do
  let (code, cs) ← code? (← keyword? "DEF" (← keyword? "SPRITE" cs))
  let (attrs, cs) := attributes cs
  return (.spriteDef code attrs, cs)

def place? : Reader Form := fun cs => do
  let (code, cs) ← code? (← keyword? "PLACE" cs)
  let (items, cs) ← separated? item? (← mark? '@' cs)
  return (.place code items, cs)

def create? : Reader Form := fun cs => do
  let (attrs, cs) := attributes (← keyword? "CREATE" cs)
  let cs ← mark? '@' cs
  match keyword? "ALL" cs with
  | some cs => return (.create attrs none, cs)
  | none =>
    let (items, cs) ← separated? item? cs
    return (.create attrs (some items), cs)

def heightRandom? : Reader Form := fun cs => do
  let (attrs, cs) := attributes (← keyword? "HEIGHT_RANDOM" cs)
  return (.heightRandom attrs, cs)

def heightStart? : Reader Form := fun cs => do
  return (.heightStart, ← keyword? "HEIGHT_START" cs)

def heightEnd? : Reader Form := fun cs => do
  return (.heightEnd, ← keyword? "HEIGHT_END" cs <|> keyword? "END_HEIGHT" cs)

def height? : Reader Form := fun cs => do
  return (.height (skip (← keyword? "HEIGHT" cs)), [])

def roads? : Reader Form := fun cs => do
  let (items, cs) ← separated? item? (← keyword? "ROADS" cs)
  return (.roads items, cs)

def state? : Reader Form := fun cs => do
  let (attrs, cs) := attributes (← keyword? "STATE" cs)
  return (.state attrs, cs)

def move? : Reader Form := fun cs => do
  let (id, cs) ← reference? (← keyword? "MOVE" cs)
  let (items, cs) ← separated? item? (← keyword? "TO" cs)
  return (.move id items, cs)

def attackKind? : Reader Bool := fun cs => do
  either? "PHYSICAL" "MAGIC" (← keyword? "TYPE" cs)

def attack? : Reader Form := fun cs => do
  let (attacker, cs) ← reference? (← keyword? "ATTACK" cs)
  let (target, cs) ← reference? (← arrow? cs)
  let (magic, cs) := (attackKind? cs).getD (false, cs)
  let (timings, cs) := timings cs
  return (.attack attacker target magic timings, cs)

def effect? : Reader Form := fun cs => do
  let (kind, cs) ← item? (← keyword? "EFFECT" cs)
  let (item, cs) ← item? (← keyword? "AT" cs)
  let (timings, cs) := timings cs
  return (.effect kind item timings, cs)

def removeHeightmap? : Reader Form := fun cs => do
  return (.removeHeightmap, ← keyword? "HEIGHTMAP" (← keyword? "REMOVE" cs))

def remove? : Reader Form := fun cs => do
  let (id, cs) ← reference? (← keyword? "REMOVE" cs)
  return (.remove id, cs)

def clear? : Reader Form := fun cs => do
  let (all, cs) ← either? "TOKENS" "ALL" (← keyword? "CLEAR" cs)
  return (.clear all, cs)

def reset? : Reader Form := fun cs => do
  return (.reset, ← keyword? "RESET" cs)

/-- The directives in the order in which they are tried. -/
def front? : Reader Form := fun cs =>
  background? cs <|> map? cs <|> initiativeSet? cs <|> initiative? cs <|> grid? cs <|> board? cs <|>
    spriteDef? cs <|> place? cs <|> create? cs <|> heightRandom? cs <|> heightStart? cs <|>
    heightEnd? cs <|> height? cs <|> roads? cs <|> state? cs <|> move? cs <|> attack? cs <|>
    effect? cs <|> removeHeightmap? cs <|> remove? cs <|> clear? cs <|> reset? cs

/-- The form of a whole line. -/
def read? (line : List Char) : Option Form := do
  let (form, rest) ← front? line
  if (skip rest).isEmpty then some form else none

/-! ## Lines that go on with a `HEIGHT` directive -/

/-- A cell and its height, written `A1=2`. -/
def heightPair? : Reader Unit := fun cs => do
  let (_, rest) ← run? (fun c => isItemChar c && c != '=') (skip cs)
  match rest with
  | '=' :: rest => (number? rest).map fun (_, rest) => ((), rest)
  | _ => none

end Form

def isHeightPairs (line : List Char) : Bool :=
  match separated? Form.heightPair? line with
  | some (_, rest) => (skip rest).isEmpty
  | none => false

end Tabletop.Script
