import Tabletop.Decimal.Binary
import Tabletop.Decimal.Whole

/-!
# The shortest decimal of a floating point number

Among the decimals that a reader rounds to the given number, the shortest is chosen, and of the
shortest the nearest.

* `shortest` selects digits and exponent. The two neighbours of the number on the grids of one
  digit, two digits and so on are tested in exact arithmetic, and the first grid with a hit wins.
* `Layout` holds the decisions that a format makes about writing the digits; `Layout.write` carries
  them out.
-/

namespace Tabletop.Decimal

/-- `digits * 10^exponent`. -/
structure Dec where
  digits : Nat
  exponent : Int
deriving Repr, DecidableEq

/-- Which of two equally near decimals is written. -/
inductive Tie where
  | toEven
  | away
deriving DecidableEq

/-! ## Selection -/

/-- The numbers `4m - 2` or `4m - 1` and `4m + 2`, in units of `2^(q-2)`, bound the decimals that
are read as `m * 2^q`. The lower gap is half as wide below a power of two. -/
def lowerEnd (b : Binary) : Nat :=
  if b.m = Nat.pow 2 52 ∧ -1074 < b.q then 4 * b.m - 1 else 4 * b.m - 2

/-- The digits on the grid `10^g`, if a decimal of that grid is read as `b`. With `u` and `v` as
below, `d * 10^g` compares with `x * 2^(q-2)` as `d * v` with `x * u`. -/
def digitsOn? (tie : Tie) (b : Binary) (g : Int) : Option Nat :=
  let u := Nat.pow 2 (b.q - 2).toNat * Nat.pow 10 (-g).toNat
  let v := Nat.pow 2 (2 - b.q).toNat * Nat.pow 10 g.toNat
  let here := 4 * b.m * u
  let low := lowerEnd b * u
  let high := (4 * b.m + 2) * u
  let inside := fun d : Nat =>
    if b.m % 2 = 0 then low ≤ d * v && d * v ≤ high else low < d * v && d * v < high
  let d := here / v
  match inside d, inside (d + 1) with
  | false, false => none
  | true, false => some d
  | false, true => some (d + 1)
  | true, true =>
    match compare (2 * here) ((2 * d + 1) * v) with
    | .lt => some d
    | .gt => some (d + 1)
    | .eq =>
      match tie with
      | .toEven => some (d + d % 2)
      | .away => some (d + 1)

/-- The whole part of a number of this size, moved by a number of decimal places. -/
def shifted (b : Binary) (places : Nat) : Nat :=
  b.m * Nat.pow 2 b.q.toNat * Nat.pow 10 places / Nat.pow 2 (-b.q).toNat

/-- The exponent of the leading digit of a positive number of this size. Twenty places reach the
common numbers, and four hundred the smallest floating point number. -/
def leadingExponent (b : Binary) : Int :=
  let places := if shifted b 20 = 0 then 400 else 20
  ((digits (shifted b places)).length : Int) - (places + 1 : Nat)

def stripZeros : (fuel : Nat) → Dec → Dec
  | 0, d => d
  | fuel + 1, d =>
    if d.digits % 10 = 0 ∧ d.digits ≠ 0 then stripZeros fuel ⟨d.digits / 10, d.exponent + 1⟩ else d

/-- The shortest decimal of a positive number. Seventeen digits always suffice; the exact value
stands behind them. -/
def shortest (tie : Tie) (b : Binary) : Dec :=
  let top := leadingExponent b
  let found := (List.range 17).findSome? fun i : Nat =>
    (digitsOn? tie b (top - i)).map fun d => (⟨d, top - i⟩ : Dec)
  let k := (-b.q).toNat
  stripZeros 800 (found.getD ⟨b.m * Nat.pow 2 b.q.toNat * Nat.pow 5 k, -(k : Int)⟩)

/-! ## Layout -/

/-- How a format writes floating point numbers. -/
structure Layout where
  /-- Whether a number is written out, by the exponent of its leading digit. -/
  positional : Int → Bool
  /-- Whole numbers end in `.0`. -/
  pointZero : Bool
  tie : Tie
  nan : String
  infinity : String
  negativeInfinity : String

/-- All zeros that a written number needs are put in by these two. -/
def zeros (n : Nat) : List Char := List.replicate n '0'

namespace Layout

def positionalText (l : Layout) (ds : List Char) (exponent : Int) : List Char :=
  if 0 ≤ exponent then
    ds ++ zeros exponent.toNat ++ (if l.pointZero then ['.', '0'] else [])
  else
    let places := (-exponent).toNat
    if places < ds.length then
      ds.take (ds.length - places) ++ '.' :: ds.drop (ds.length - places)
    else '0' :: '.' :: (zeros (places - ds.length) ++ ds)

def scientificText (ds : List Char) (leading : Int) : List Char :=
  let mantissa :=
    match ds with
    | d :: e :: rest => d :: '.' :: e :: rest
    | _ => ds
  mantissa ++ 'e' :: (if leading < 0 then '-' else '+') :: digits leading.natAbs

def sizeText (l : Layout) (b : Binary) : List Char :=
  if b.m = 0 then l.positionalText ['0'] 0
  else
    let d := shortest l.tie b
    let ds := digits d.digits
    let leading := d.exponent + ds.length - 1
    if l.positional leading then l.positionalText ds d.exponent else scientificText ds leading

def write (l : Layout) (x : Float) : String :=
  match Binary.ofFloat? x with
  | some b => String.ofList ((if b.negative then ['-'] else []) ++ l.sizeText b)
  | none => if x.isNaN then l.nan else if x < 0 then l.negativeInfinity else l.infinity

end Layout

/-! ## A set number of places -/

/-- The number with `places` digits after the point; the exact value is rounded, halves to the even
digit. -/
def fixedText (places : Nat) (x : Float) : String :=
  match Binary.ofFloat? x with
  | some b =>
    let unit := Nat.pow 10 places
    let scaled := divHalfEven (b.m * Nat.pow 2 b.q.toNat * unit) (Nat.pow 2 (-b.q).toNat)
    let whole := digits (scaled / unit)
    let part := digits (scaled % unit)
    let fraction :=
      if places = 0 then [] else '.' :: (zeros (places - part.length) ++ part)
    String.ofList ((if b.negative then ['-'] else []) ++ whole ++ fraction)
  | none => if x.isNaN then "NaN" else if x < 0 then "-inf" else "inf"

end Tabletop.Decimal
