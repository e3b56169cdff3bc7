import Tabletop.Decimal.Reading
import Tabletop.Json

/-!
# Numbers in JSON texts

A number without point and exponent is a whole number if it fits into 64 bits. Every other number
is a fraction. Its digits are gathered in a significand of 64 bits, and what does not fit is left
out; the significand is then multiplied or divided by a power of ten, once. A number beyond the
largest fraction is refused.
-/

namespace Tabletop.Json

open Decimal

/-- The parts of a number: `-12.50e+3` has the sign, the digits `12` and `50` and the exponent
`+3`. -/
structure Numeral where
  negative : Bool
  whole : List Char
  fraction : Option (List Char)
  exponent : Option (Bool × List Char)

/-- The exponent of a numeral after its mark: whether it is negative, and its digits. -/
def exponentOf? : List Char → Option (Bool × List Char)
  | '-' :: ds => if ds.isEmpty || !ds.all Char.isDigit then none else some (true, ds)
  | ds =>
    let ds := withoutPlus ds
    if ds.isEmpty || !ds.all Char.isDigit then none else some (false, ds)

def marksExponent (c : Char) : Bool := c == 'e' || c == 'E'

/-- The whole part has no leading zero, and each part that is begun has a digit. -/
def numeral? (cs : List Char) : Option Numeral := do
  let (negative, cs) :=
    match cs with
    | '-' :: rest => (true, rest)
    | _ => (false, cs)
  let whole := cs.takeWhile Char.isDigit
  let rest := cs.dropWhile Char.isDigit
  if whole.isEmpty || (whole.head? == some '0' && whole.length != 1) then none
  let (fraction, rest) :=
    match rest with
    | '.' :: more => (some (more.takeWhile Char.isDigit), more.dropWhile Char.isDigit)
    | _ => (none, rest)
  if fraction == some [] then none
  match rest with
  | [] => some ⟨negative, whole, fraction, none⟩
  | c :: more =>
    if marksExponent c then
      (exponentOf? more).map fun e => ⟨negative, whole, fraction, some e⟩
    else none

/-- Digits appended to a significand as long as it fits into 64 bits, and the digits left over. -/
def gather : (significand : Nat) → List Char → Nat × List Char
  | s, [] => (s, [])
  | s, c :: rest =>
    let next := 10 * s + (c.toNat - '0'.toNat)
    if next ≤ word64 then gather next rest else (s, c :: rest)

/-- `x * 10^e`. Below the last power of ten that is a fraction, several divisions are needed; after
the third nothing is left of a significand of 64 bits. -/
def scaleFloat : (fuel : Nat) → Float → Int → Option Float
  | 0, _, _ => some 0.0
  | fuel + 1, x, e =>
    if 308 < e then if x == 0.0 then some x else none
    else if 0 ≤ e then
      let y := x * Float.ofScientific 1 false e.toNat
      if y.isInf then none else some y
    else if -308 ≤ e then some (x / Float.ofScientific 1 false (-e).toNat)
    else if x == 0.0 then some x
    else scaleFloat fuel (x / 1e308) (e + 308)

/-- The size of a numeral with a point or an exponent, or with too many digits. -/
def Numeral.float? (n : Numeral) : Option Float :=
  let (s, left) := gather 0 n.whole
  let fraction := n.fraction.getD []
  let (s', left') := gather s fraction
  let start : Int := left.length - (fraction.length - left'.length : Nat)
  match n.exponent with
  | none => scaleFloat 5 (Float.ofNat s') start
  | some (below, ds) =>
    let e := Nat.ofDigitChars 10 ds 0
    if 0x80000000 ≤ e then
      if s' ≠ 0 ∧ below = false then none else some 0.0
    else scaleFloat 5 (Float.ofNat s') (if below then start - e else start + e)

def Numeral.value? (n : Numeral) : Option Json :=
  let size := Nat.ofDigitChars 10 n.whole 0
  if n.fraction.isNone ∧ n.exponent.isNone ∧ size ≤ word64 then
    if !n.negative then some (.int size)
    else if 0 < size ∧ size ≤ 0x8000000000000000 then some (.int (-size))
    else some (.float (-Float.ofNat size))
  else n.float?.map fun x => .float (if n.negative then -x else x)

end Tabletop.Json
