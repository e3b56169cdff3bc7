/-!
# Whole numbers in decimal

* `readDigits?` reads one or more ASCII digits; `readNat?` also takes a plus sign and `readInt?`
  either sign. Both refuse a number beyond the given bounds.
* `word32` and `word64` are the largest numbers of 32 and 64 bits.
-/

namespace Tabletop.Decimal

def word32 : Nat := 0xFFFFFFFF
def word64 : Nat := 0xFFFFFFFFFFFFFFFF

def readDigits? (cs : List Char) : Option Nat :=
  if cs.isEmpty || !cs.all Char.isDigit then none else some (Nat.ofDigitChars 10 cs 0)

def withoutPlus : List Char → List Char
  | '+' :: rest => rest
  | cs => cs

def readNat? (largest : Nat) (cs : List Char) : Option Nat :=
  (readDigits? (withoutPlus cs)).filter (· ≤ largest)

def readInt? (least largest : Int) (cs : List Char) : Option Int :=
  let value :=
    match cs with
    | '-' :: rest => (readDigits? rest).map fun n => -(n : Int)
    | _ => (readDigits? (withoutPlus cs)).map Int.ofNat
  value.filter fun i => least ≤ i && i ≤ largest

def readUInt32? (cs : List Char) : Option UInt32 := (readNat? word32 cs).map UInt32.ofNat

def readUInt64? (cs : List Char) : Option UInt64 := (readNat? word64 cs).map UInt64.ofNat

def readInt32? (cs : List Char) : Option Int32 :=
  (readInt? (-0x80000000) 0x7FFFFFFF cs).map Int32.ofInt

def digits (n : Nat) : List Char := Nat.toDigits 10 n

end Tabletop.Decimal
