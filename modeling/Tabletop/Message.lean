import Tabletop.Decimal.Shortest

/-!
# Numbers in messages

Fractions in messages are written out without an exponent, and whole ones without a point.
-/

namespace Tabletop.Message

def numberLayout : Decimal.Layout where
  positional _ := true
  pointZero := false
  tie := .away
  nan := "NaN"
  infinity := "inf"
  negativeInfinity := "-inf"

def number (x : Float) : String := numberLayout.write x

end Tabletop.Message
