import Tabletop.Toml.Terminals

/-!
# Dates and times of TOML

A date, a time of day, or both with perhaps an offset from the universal time. No setting holds a
date; so the readers only tell what follows it.
-/

namespace Tabletop.Toml

/-- Exactly that many decimal digits with a value between the bounds. -/
def count? (digits least largest : Nat) (cs : List Char) : Option (Nat × List Char) :=
  let ds := cs.take digits
  let n := Nat.ofDigitChars 10 ds 0
  if ds.length = digits ∧ ds.all Char.isDigit ∧ least ≤ n ∧ n ≤ largest then
    some (n, cs.drop digits)
  else none

def isLeapYear (year : Nat) : Bool := year % 4 == 0 && (year % 100 != 0 || year % 400 == 0)

def daysOf (year month : Nat) : Nat :=
  if month = 2 then (if isLeapYear year then 29 else 28)
  else if month ∈ [4, 6, 9, 11] then 30
  else 31

def day? (cs : List Char) : Option (List Char) := do
  let (year, cs) ← count? 4 0 9999 cs
  let (month, cs) ← count? 2 1 12 (← expect? ['-'] cs)
  let (_, cs) ← count? 2 1 (daysOf year month) (← expect? ['-'] cs)
  return cs

/-- A fraction of a second, if there is one. -/
def fraction (cs : List Char) : List Char :=
  match cs with
  | '.' :: rest => if (rest.takeWhile Char.isDigit).isEmpty then cs else rest.dropWhile Char.isDigit
  | _ => cs

/-- A minute may have a leap second. -/
def timeOfDay? (cs : List Char) : Option (List Char) := do
  let (_, cs) ← count? 2 0 23 cs
  let (_, cs) ← count? 2 0 59 (← expect? [':'] cs)
  let (_, cs) ← count? 2 0 60 (← expect? [':'] cs)
  return fraction cs

def offset? : List Char → Option (List Char)
  | [] => none
  | c :: cs =>
    if c = 'Z' ∨ c = 'z' then some cs
    else if c = '+' ∨ c = '-' then do
      let (_, cs) ← count? 2 0 23 cs
      let (_, cs) ← count? 2 0 59 (← expect? [':'] cs)
      return cs
    else none

/-- A time with perhaps an offset, after a date. -/
def timeAfterDay? : List Char → Option (List Char)
  | [] => none
  | c :: cs =>
    if c = 'T' ∨ c = 't' ∨ c = ' ' then do
      let cs ← timeOfDay? cs
      return (offset? cs).getD cs
    else none

/-- What follows a date or a time of day. -/
def moment? (cs : List Char) : Option (List Char) :=
  match day? cs with
  | some rest => some ((timeAfterDay? rest).getD rest)
  | none => timeOfDay? cs

end Tabletop.Toml
