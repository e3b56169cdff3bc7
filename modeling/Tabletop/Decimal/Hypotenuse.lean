import Tabletop.Decimal.Binary

/-!
# The root of a sum of two squares

`hypotenuse` is the length of the long side of a right-angled triangle, with an error below one unit
in the last place. The rounded root of the rounded sum is corrected once, and sides so long or so
short that their squares leave the range are scaled before and after.
-/

namespace Tabletop.Decimal

/-- `2^q`. -/
def powerOfTwo (q : Int) : Float := Binary.toFloat ⟨false, 1, q⟩

/-- The root `h` for sides `b ≤ a` of middle size. Its error is `(h² - a² - b²) / 2h`, and the
numerator is put together from the difference between `h` and the side that is nearer to it, so that
nothing of it cancels. -/
def correctedRoot (a b : Float) : Float :=
  let h := (a * a + b * b).sqrt
  let excess :=
    if h ≤ 2.0 * b then
      let d := h - b
      a * (2.0 * d - a) + (d - 2.0 * (a - b)) * d
    else
      let d := h - a
      2.0 * d * (a - 2.0 * b) + ((4.0 * d - b) * b + d * d)
  h - excess / (2.0 * h)

def scale : Float := powerOfTwo (-600)

/-- A shorter side below this part of the longer one only counts once. -/
def negligible : Float := powerOfTwo (-54)

/-- The root for sides `b ≤ a` of any size. -/
def rootOfSides (a b : Float) : Float :=
  if powerOfTwo 511 < a then
    if b ≤ a * negligible then a + b else correctedRoot (a * scale) (b * scale) / scale
  else if b < powerOfTwo (-459) then
    if b / negligible ≤ a then a + b else correctedRoot (a / scale) (b / scale) * scale
  else if b ≤ a * negligible then a + b
  else correctedRoot a b

def hypotenuse (x y : Float) : Float :=
  if x.isFinite && y.isFinite then
    let (a, b) := (x.abs, y.abs)
    if a < b then rootOfSides b a else rootOfSides a b
  else if x.isInf || y.isInf then 1.0 / 0.0
  else x + y

end Tabletop.Decimal
