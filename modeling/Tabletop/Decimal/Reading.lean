import Tabletop.Decimal.Whole
import Tabletop.Text.Letters

/-!
# Reading floating point numbers

`readFloat?` takes an optional sign, digits with at most one point and at least one digit, and an
optional exponent; or `inf`, `infinity` and `nan` in any case. The value is rounded to nearest, and
a number that is too large becomes an infinity.
-/

namespace Tabletop.Decimal

def infinity : Float := 1.0 / 0.0
def notANumber : Float := 0.0 / 0.0

/-- `m * 10^e` rounded to nearest. Far outside the range no power has to be computed. -/
def scaled (m : Nat) (e : Int) : Float :=
  let size := (digits m).length + e
  if m = 0 ∨ size < -400 then 0.0
  else if 400 < size then infinity
  else Float.ofScientific (m * Nat.pow 10 e.toNat) true (-e).toNat

/-- The exponent after the mantissa: nothing, or a mark, a sign and digits. -/
def readExponent? : List Char → Option Int
  | [] => some 0
  | c :: rest =>
    if c = 'e' ∨ c = 'E' then
      match rest with
      | '-' :: ds => (readDigits? ds).map fun n => -(n : Int)
      | ds => (readDigits? (withoutPlus ds)).map Int.ofNat
    else none

def readSize? (cs : List Char) : Option Float :=
  let whole := cs.takeWhile Char.isDigit
  let (fraction, rest) :=
    match cs.dropWhile Char.isDigit with
    | '.' :: more => (more.takeWhile Char.isDigit, more.dropWhile Char.isDigit)
    | more => ([], more)
  if whole.isEmpty && fraction.isEmpty then none
  else
    (readExponent? rest).map fun e =>
      scaled (Nat.ofDigitChars 10 (whole ++ fraction) 0) (e - fraction.length)

def readNamed? (cs : List Char) : Option Float :=
  let word := String.ofList (Text.foldAscii cs)
  if word = "inf" ∨ word = "infinity" then some infinity
  else if word = "nan" then some notANumber
  else none

def readFloat? (cs : List Char) : Option Float :=
  let size := fun ds => readNamed? ds <|> readSize? ds
  match cs with
  | '-' :: rest => (size rest).map (- ·)
  | _ => size (withoutPlus cs)

end Tabletop.Decimal
