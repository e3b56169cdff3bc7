import Tabletop.Text.Hex

/-!
# Quoted texts in JSON

* `quote` writes a text between quotation marks. Quotation marks, backslashes and the characters
  below the blank are escaped, and nothing else is.
* `pieces?` reads what stands between the marks. Beyond the escapes that `quote` writes it knows
  `\/` and `\u` with four hexadecimal digits.
* `characters?` joins two surrogates that follow one another to one character. A surrogate that stands
  alone is half a character; a text that holds one is well formed and still has no value.
-/

namespace Tabletop.Json

/-! ## Writing -/

def escapeChar (c : Char) : List Char :=
  if c = '"' then ['\\', '"']
  else if c = '\\' then ['\\', '\\']
  else if c.toNat = 8 then ['\\', 'b']
  else if c = '\t' then ['\\', 't']
  else if c = '\n' then ['\\', 'n']
  else if c.toNat = 12 then ['\\', 'f']
  else if c = '\r' then ['\\', 'r']
  else if c.toNat < 0x20 then ['\\', 'u', '0', '0'] ++ Text.hexDigits c.toNat 2
  else [c]

def escape (cs : List Char) : List Char := cs.flatMap escapeChar

def quote (s : String) : List Char := '"' :: (escape s.toList ++ ['"'])

/-! ## Reading -/

def shortEscape? (c : Char) : Option Char :=
  if c = '"' ∨ c = '\\' ∨ c = '/' then some c
  else if c = 'b' then some (Char.ofNat 8)
  else if c = 'f' then some (Char.ofNat 12)
  else if c = 'n' then some '\n'
  else if c = 'r' then some '\r'
  else if c = 't' then some '\t'
  else none

/-- A character, or the number behind `\u`. -/
inductive Piece where
  | char (c : Char)
  | unit (n : Nat)
deriving DecidableEq

def pieces? : List Char → Option (List Piece)
  | [] => some []
  | '\\' :: 'u' :: a :: b :: c :: d :: rest => do
    let n ← Text.ofHex? [a, b, c, d]
    (pieces? rest).map (.unit n :: ·)
  | ['\\'] => none
  | '\\' :: e :: rest => do
    let c ← shortEscape? e
    (pieces? rest).map (.char c :: ·)
  | c :: rest => if c.toNat < 0x20 then none else (pieces? rest).map (.char c :: ·)

def isHighSurrogate (n : Nat) : Bool := 0xD800 ≤ n && n < 0xDC00

def isLowSurrogate (n : Nat) : Bool := 0xDC00 ≤ n && n < 0xE000

def joinSurrogates (high low : Nat) : Char :=
  Char.ofNat (0x10000 + (high - 0xD800) * 0x400 + (low - 0xDC00))

/-- Goes on after a first surrogate, if there is one: its partner must follow at once. -/
def charactersFrom? : (high : Option Nat) → List Piece → Option (List Char)
  | none, [] => some []
  | none, .char c :: rest => (charactersFrom? none rest).map (c :: ·)
  | none, .unit n :: rest =>
    if isHighSurrogate n then charactersFrom? (some n) rest
    else if isLowSurrogate n then none
    else (charactersFrom? none rest).map (Char.ofNat n :: ·)
  | some high, .unit n :: rest =>
    if isLowSurrogate n then (charactersFrom? none rest).map (joinSurrogates high n :: ·) else none
  | some _, _ => none

def characters? (pieces : List Piece) : Option (List Char) := charactersFrom? none pieces

end Tabletop.Json
