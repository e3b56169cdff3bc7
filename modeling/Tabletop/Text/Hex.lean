/-!
# Hexadecimal digits

* `hexDigit` writes a number below 16 in lower case; `hexValue?` reads it in either case.
* `hexDigits` writes the last digits of a number, `ofHex?` reads digits as a number.
-/

namespace Tabletop.Text

def hexDigit (n : Nat) : Char := Nat.digitChar n

def hexValue? (c : Char) : Option Nat :=
  if c.isDigit then some (c.toNat - '0'.toNat)
  else if 'a' ≤ c ∧ c ≤ 'f' then some (c.toNat - 'a'.toNat + 10)
  else if 'A' ≤ c ∧ c ≤ 'F' then some (c.toNat - 'A'.toNat + 10)
  else none

/-- The last digits of a number, as many as are asked for. -/
def hexDigits (n : Nat) : (count : Nat) → List Char
  | 0 => []
  | count + 1 => hexDigits (n / 16) count ++ [hexDigit (n % 16)]

def ofHex? (cs : List Char) : Option Nat :=
  (cs.mapM hexValue?).map (·.foldl (fun n d => 16 * n + d) 0)

end Tabletop.Text
