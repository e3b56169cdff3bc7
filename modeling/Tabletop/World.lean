import Tabletop.Instruction
import Tabletop.Sprite
import Tabletop.TokenId

/-!
# The world

The state of a battle: the board, the definitions, and the scene on the board.

* `Board` holds size, terrain and backdrop. A cell without an entry has height zero.
* `Scene` holds what the clock moves: tokens, their walks and the effects. It is written for any
  kind of number, since a clock can be reasoned about in exact numbers; the world holds floating
  point numbers.
* `World.resolve?` finds the token that a reference stands for.
-/

namespace Tabletop

/-! ## The board -/

structure Board where
  id : String
  grid : Grid
  /-- Pixels. -/
  cellSize : UInt32
  cols : UInt32
  rows : UInt32
  background : Option String
  heights : Dict Cell Float
  /-- A board without heights stays without them. -/
  staysFlat : Bool
  roads : Dict Cell Unit
deriving DecidableEq

namespace Board

def initial : Board where
  id := "default"
  grid := .square
  cellSize := 64
  cols := 0
  rows := 0
  background := none
  heights := ∅
  staysFlat := false
  roads := ∅

/-- Every cell, row after row. -/
def cellsOf (cols rows : UInt32) : List Cell :=
  (List.range rows.toNat).flatMap fun r =>
    (List.range cols.toNat).map fun c => ⟨UInt32.ofNat c, UInt32.ofNat r⟩

def cells (b : Board) : List Cell := cellsOf b.cols b.rows

def contains (b : Board) (c : Cell) : Bool := c.col < b.cols && c.row < b.rows

def heightAt (b : Board) (c : Cell) : Float := (b.heights.get? c).getD 0.0

def grow (b : Board) (cols rows : UInt32) : Board :=
  { b with cols := max b.cols cols, rows := max b.rows rows }

/-- Height zero for every cell of a board that has no heights yet. -/
def fillFlat (b : Board) : Board :=
  if b.heights.isEmpty && !b.staysFlat then
    { b with heights := b.heights.insertAll (b.cells.map (·, 0.0)) }
  else b

end Board

/-! ## The scene -/

structure Point (α : Type) where
  col : α
  row : α
deriving DecidableEq

namespace Point

def ofCell (c : Cell) : Point Float := ⟨Float.ofNat c.col.toNat, Float.ofNat c.row.toNat⟩

def cell? (p : Point Float) : Option Cell := Cell.ofPoint? p.col p.row

end Point

structure Token (α : Type) where
  id : TokenId
  /-- The id of its definition. -/
  sprite : String
  board : String
  /-- Between the cells while it walks. -/
  position : Point α
  speed : UInt32
  faction : String
  kind : String
  size : Float
  name : String
  art : Option String
deriving DecidableEq

/-- A walk of a token along a path. The index is that of the waypoint that it walks toward. -/
structure Walk (α : Type) where
  token : TokenId
  path : List (Point α)
  index : Nat
  speed : α
deriving DecidableEq

/-- Where an effect begins or ends. -/
inductive Anchor where
  | token (id : TokenId)
  | cell (cell : Cell)
deriving DecidableEq

structure Effect (α : Type) where
  id : Nat
  kind : String
  source : Anchor
  target : Anchor
  speed : α
  duration : α
  age : α
deriving DecidableEq

structure Scene (α : Type) where
  /-- In the order of their creation. -/
  tokens : List (Token α)
  walks : List (Walk α)
  effects : List (Effect α)
deriving DecidableEq

namespace Anchor

def isToken : Anchor → Bool
  | token _ => true
  | cell _ => false

end Anchor

namespace Walk

variable {α : Type}

def next? (w : Walk α) : Option (Point α) := w.path[w.index]?

def isFinished (w : Walk α) : Bool := w.path.length ≤ w.index

end Walk

/-- The change of the first element of a kind. -/
def updateFirst {α : Type} (p : α → Bool) (f : α → α) : List α → List α
  | [] => []
  | a :: rest => if p a then f a :: rest else a :: updateFirst p f rest

namespace Scene

variable {α : Type}

def empty : Scene α := ⟨[], [], []⟩

def ids (s : Scene α) : List TokenId := s.tokens.map (·.id)

def token? (s : Scene α) (id : TokenId) : Option (Token α) := s.tokens.find? (·.id == id)

def walk? (s : Scene α) (id : TokenId) : Option (Walk α) := s.walks.find? (·.token == id)

/-- The walk takes the place of the one that the token is on. -/
def setWalk (s : Scene α) (w : Walk α) : Scene α :=
  { s with walks := s.walks.filter (·.token != w.token) ++ [w] }

/-- The token goes, and its walk with it. -/
def remove (s : Scene α) (id : TokenId) : Scene α :=
  if (s.token? id).isSome then
    { s with
      tokens := s.tokens.eraseP (·.id == id)
      walks := s.walks.filter (·.token != id) }
  else s

/-- All tokens go, and with them their walks and the effects that begin or end at a token. -/
def clearTokens (s : Scene α) : Scene α :=
  ⟨[], [], s.effects.filter fun e => !(e.source.isToken || e.target.isToken)⟩

end Scene

/-! ## Tokens -/

namespace Token

/-- The attributes of a `STATE` or a `CREATE` that concern the token on the board. -/
def withAttributes {α : Type} (t : Token α) (attrs : Attributes) : Token α :=
  { t with
    name := (attrs.given? ["name"]).getD t.name
    faction := ((attrs.given? Sprite.factionKeys).map Text.lowered).getD t.faction
    speed := (attrs.read? ["speed"] Decimal.readUInt32?).getD t.speed
    size := (attrs.read? ["size"] Decimal.readFloat?).getD t.size }

def spawn (id : TokenId) (sprite : Sprite) (board : String) (cell : Cell) (attrs : Attributes) :
    Token Float :=
  let token : Token Float :=
    { id
      sprite := sprite.id
      board
      position := .ofCell cell
      speed := sprite.speed
      faction := sprite.faction
      kind := sprite.category
      size := sprite.size
      name := sprite.name
      art := none }
  { token.withAttributes attrs with art := attrs.given? Sprite.artKeys }

def cell? (t : Token Float) : Option Cell := t.position.cell?

end Token

/-! ## The world -/

structure World where
  board : Board
  sprites : List Sprite
  scene : Scene Float
  /-- The id of the last effect. -/
  lastEffect : Nat
deriving DecidableEq

namespace World

def empty : World := ⟨.initial, [], .empty, 0⟩

/-- The token that a reference names by its id; failing that, if this is asked for, the first one
whose id begins with it. -/
def resolve? (w : World) (byBeginning : Bool) (reference : String) : Option TokenId :=
  let exact := (TokenId.ofText? reference).filter fun id => (w.scene.token? id).isSome
  exact <|> (if byBeginning then w.scene.ids.find? (·.beginsWith reference) else none)

def sprite? (w : World) (reference : String) : Option Sprite := Sprite.lookup? w.sprites reference

def nextId (w : World) (stem : String) : TokenId := TokenId.next stem w.scene.ids

def addEffect (w : World) (kind : String) (source target : Anchor) (speed duration : Float) : World :=
  let id := w.lastEffect + 1
  { w with
    lastEffect := id
    scene := { w.scene with
      effects := w.scene.effects ++ [⟨id, kind, source, target, speed, duration, 0.0⟩] } }

end World

end Tabletop
