import Tabletop.Decimal.Reading
import Tabletop.Json
import Tabletop.Text.Hex
import Tabletop.Toml.Terminals

/-!
# Numbers of TOML

* `whole?` reads a whole number of 64 bits with a sign: in decimal without needless zeros, or
  without a sign after `0x`, `0o` or `0b`.
* `fraction?` reads a number with a fraction or an exponent, and the names `inf` and `nan`. A number
  that is too large is refused, but one that is too small only becomes an infinity.

Single underscores may stand between digits.
-/

namespace Tabletop.Toml

/-! ## Digits -/

/-- Digits without the underscores between them. Where a digit has to come next, the first argument
is true. -/
def digitsFrom (isDigit : Char → Bool) : (due : Bool) → Reader (List Char)
  | due, [] => if due then none else some ([], [])
  | due, c :: rest =>
    if isDigit c then do
      let (ds, rest) ← digitsFrom isDigit false rest
      return (c :: ds, rest)
    else if due then none
    else if c = '_' then digitsFrom isDigit true rest
    else some ([], c :: rest)

/-- One digit or more. -/
def digits? (isDigit : Char → Bool) : Reader (List Char) := digitsFrom isDigit true

def sign (cs : List Char) : List Char × List Char :=
  match cs with
  | '+' :: rest => (['+'], rest)
  | '-' :: rest => (['-'], rest)
  | _ => ([], cs)

/-- Digits of which the first is no zero, unless it is the only one. -/
def wholePart? (cs : List Char) : Option (List Char × List Char) :=
  match cs with
  | '0' :: rest => some (['0'], rest)
  | _ => digits? Char.isDigit cs

/-! ## Whole numbers -/

def least : Int := -0x8000000000000000
def largest : Int := 0x7FFFFFFFFFFFFFFF

def inBase? (base : Nat) (cs : List Char) : Option (Int × List Char) := do
  let isDigit := fun c => (Text.hexValue? c).any (· < base)
  let (ds, rest) ← digits? isDigit cs
  let n := (ds.filterMap Text.hexValue?).foldl (fun n d => base * n + d) 0
  if (n : Int) ≤ largest then some (n, rest) else none

def whole? (cs : List Char) : Option (Int × List Char) :=
  match cs with
  | '0' :: 'x' :: rest => inBase? 16 rest
  | '0' :: 'o' :: rest => inBase? 8 rest
  | '0' :: 'b' :: rest => inBase? 2 rest
  | _ => do
    let (s, rest) := sign cs
    let (ds, rest) ← wholePart? rest
    return (← Decimal.readInt? least largest (s ++ ds), rest)

/-! ## Fractions -/

/-- The digits after a point. -/
def decimals? : Reader (List Char)
  | '.' :: rest => do
    let (ds, rest) ← digits? Char.isDigit rest
    return ('.' :: ds, rest)
  | _ => none

def exponent? : Reader (List Char)
  | [] => none
  | c :: rest =>
    if c = 'e' ∨ c = 'E' then do
      let (s, rest) := sign rest
      let (ds, rest) ← digits? Char.isDigit rest
      return ('e' :: s ++ ds, rest)
    else none

/-- What a number has that is not whole: an exponent, or decimals and perhaps an exponent. -/
def tail? (cs : List Char) : Option (List Char × List Char) :=
  match decimals? cs with
  | none => exponent? cs
  | some (ds, rest) =>
    match exponent? rest with
    | none => some (ds, rest)
    | some (e, rest) => some (ds ++ e, rest)

def written? (cs : List Char) : Option (Float × List Char) := do
  let (s, rest) := sign cs
  let (ds, rest) ← wholePart? rest
  let (more, rest) ← tail? rest
  let x ← Decimal.readFloat? (s ++ ds ++ more)
  if x == Decimal.infinity then none else some (x, rest)

def named? (cs : List Char) : Option (Float × List Char) := do
  let (s, rest) := sign cs
  let negated := fun x : Float => if s = ['-'] then -x else x
  match rest with
  | 'i' :: 'n' :: 'f' :: rest => return (negated Decimal.infinity, rest)
  | 'n' :: 'a' :: 'n' :: rest => return (negated Decimal.notANumber, rest)
  | _ => none

def fraction? (cs : List Char) : Option (Float × List Char) := written? cs <|> named? cs

/-- A number of either kind. -/
def number? (cs : List Char) : Option (Json × List Char) :=
  match fraction? cs with
  | some (x, rest) => some (.float x, rest)
  | none => (whole? cs).map fun (n, rest) => (.int n, rest)

end Tabletop.Toml
