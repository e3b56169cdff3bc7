/-!
# Floating point numbers as exact binary fractions

* `Binary.ofFloat?` takes a finite number apart into sign, mantissa and exponent; `Binary.toFloat`
  rounds `m * 2^q` to the nearest number, ties to the even mantissa.
* `nearestInt?` and `roundHalfAway` go to the nearest integer; halves go away from zero.
-/

namespace Tabletop.Decimal

/-- The number `m * 2^q`, negated if `negative`. -/
structure Binary where
  negative : Bool
  m : Nat
  q : Int
deriving Repr, DecidableEq

namespace Binary

/-- The parts of a finite number; `none` for the infinities and for what is no number. -/
def ofFloat? (x : Float) : Option Binary :=
  let bits := x.toBits.toNat
  let negative := Nat.pow 2 63 ≤ bits
  let exponent : Nat := bits / Nat.pow 2 52 % Nat.pow 2 11
  let fraction : Nat := bits % Nat.pow 2 52
  if exponent = 2047 then none
  else if exponent = 0 then some ⟨negative, fraction, -1074⟩
  else some ⟨negative, Nat.pow 2 52 + fraction, (exponent : Int) - 1075⟩

/-- The nearest floating point number. A binary fraction is a decimal one: `2^-k = 5^k / 10^k`. -/
def toFloat (b : Binary) : Float :=
  let k := (-b.q).toNat
  let size := Float.ofScientific (b.m * Nat.pow 2 b.q.toNat * Nat.pow 5 k) true k
  if b.negative then -size else size

end Binary

/-! ## Rounding -/

/-- The quotient rounded to the nearest natural number, halves up. -/
def divHalfUp (n d : Nat) : Nat := (2 * n + d) / (2 * d)

/-- The quotient rounded to the nearest natural number, halves to the even one. -/
def divHalfEven (n d : Nat) : Nat :=
  let low := n / d
  match compare (2 * (n % d)) d with
  | .lt => low
  | .gt => low + 1
  | .eq => low + low % 2

/-- The nearest integer to a finite number; halves go away from zero. -/
def nearestInt? (x : Float) : Option Int :=
  (Binary.ofFloat? x).map fun b =>
    let size := divHalfUp (b.m * Nat.pow 2 b.q.toNat) (Nat.pow 2 (-b.q).toNat)
    if b.negative then -(size : Int) else size

/-- The nearest integer as a floating point number. It keeps the sign of a zero, and what is not
finite stays as it is. -/
def roundHalfAway (x : Float) : Float :=
  match Binary.ofFloat? x with
  | none => x
  | some b =>
    if 0 ≤ b.q then x
    else Binary.toFloat ⟨b.negative, divHalfUp b.m (Nat.pow 2 (-b.q).toNat), 0⟩

end Tabletop.Decimal
