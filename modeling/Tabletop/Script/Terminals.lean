/-!
# The words of the script language

A reader takes what it recognises from the front of a text and gives the rest; `none` means that it
does not recognise the front. Choices are tried in order, and what has been taken is not given back
to make a later part fit.

* `keyword?` takes a word in any letter case that is not the beginning of a longer one.
* `run?` takes the longest front of a class of characters, if it is not empty.
* `many` takes as many as it can; `separated?` takes one or more with single commas or blanks
  between and perhaps a comma behind.

Between the parts of a directive there may be blanks, which are spaces and tabs.
-/

namespace Tabletop.Script

abbrev Reader (α : Type) := List Char → Option (α × List Char)

/-! ## Characters -/

def isGap (c : Char) : Bool := c == ' ' || c == '\t'

def isIdentChar (c : Char) : Bool := c.isAlphanum || c == '_'

def isItemChar (c : Char) : Bool := !isGap c && c != ','

def isCodeChar (c : Char) : Bool := isItemChar c && c != '=' && c != '@'

def isKeyChar (c : Char) : Bool := c.isAlphanum || c == '_' || c == '-' || c == '.'

def skip (cs : List Char) : List Char := cs.dropWhile isGap

/-! ## Words -/

/-- The rest after a word in upper case letters, read without regard to case. -/
def word? : (word cs : List Char) → Option (List Char)
  | [], cs => some cs
  | _ :: _, [] => none
  | w :: word, c :: cs => if c.toUpper = w then word? word cs else none

def endsWord : List Char → Bool
  | [] => true
  | c :: _ => !isIdentChar c

/-- A keyword after blanks. -/
def keyword? (name : String) (cs : List Char) : Option (List Char) :=
  (word? name.toList (skip cs)).filter endsWord

/-- A mark after blanks. -/
def mark? (mark : Char) (cs : List Char) : Option (List Char) :=
  match skip cs with
  | c :: rest => if c = mark then some rest else none
  | [] => none

def run? (p : Char → Bool) : Reader (List Char) := fun cs =>
  let taken := cs.takeWhile p
  if taken.isEmpty then none else some (taken, cs.dropWhile p)

def item? : Reader (List Char) := fun cs => run? isItemChar (skip cs)

def code? : Reader (List Char) := fun cs => run? isCodeChar (skip cs)

def uint? : Reader (List Char) := fun cs => run? Char.isDigit (skip cs)

/-- A token reference ends before a blank, a comma, an equals sign or an arrow. -/
def spanReference : List Char → List Char × List Char
  | [] => ([], [])
  | '-' :: '>' :: rest => ([], '-' :: '>' :: rest)
  | c :: rest =>
    if isItemChar c && c != '=' then
      let (taken, left) := spanReference rest
      (c :: taken, left)
    else ([], c :: rest)

def reference? : Reader (List Char) := fun cs =>
  let (taken, rest) := spanReference (skip cs)
  if taken.isEmpty then none else some (taken, rest)

/-! ## Numbers -/

def sign : List Char → List Char × List Char
  | '-' :: rest => (['-'], rest)
  | '+' :: rest => (['+'], rest)
  | cs => ([], cs)

/-- A whole number with a sign, without blanks before it. -/
def int? : Reader (List Char) := fun cs => do
  let (s, rest) := sign cs
  let (digits, rest) ← run? Char.isDigit rest
  return (s ++ digits, rest)

/-- Digits with a point among or before them. -/
def size? : Reader (List Char) := fun cs =>
  match run? Char.isDigit cs with
  | some (whole, '.' :: rest) =>
    some (whole ++ '.' :: rest.takeWhile Char.isDigit, rest.dropWhile Char.isDigit)
  | some (whole, rest) => some (whole, rest)
  | none =>
    match cs with
    | '.' :: rest => (run? Char.isDigit rest).map fun (digits, rest) => ('.' :: digits, rest)
    | _ => none

/-- A number with a sign, without blanks before it. -/
def number? : Reader (List Char) := fun cs => do
  let (s, rest) := sign cs
  let (size, rest) ← size? rest
  return (s ++ size, rest)

/-! ## Repetition -/

/-- Readings one after the other until the reader does not recognise the front. A reader that takes
something each time is done after as many readings as there are characters. -/
def manyFrom {α : Type} (read : Reader α) : (fuel : Nat) → List Char → List α × List Char
  | 0, cs => ([], cs)
  | fuel + 1, cs =>
    match read cs with
    | none => ([], cs)
    | some (a, rest) =>
      let (others, rest) := manyFrom read fuel rest
      (a :: others, rest)

def many {α : Type} (read : Reader α) (cs : List Char) : List α × List Char :=
  manyFrom read cs.length cs

def dropComma (cs : List Char) : List Char := (mark? ',' cs).getD cs

/-- One or more, where a comma may stand between two and behind the last. -/
def separated? {α : Type} (read : Reader α) : Reader (List α) := fun cs => do
  let (first, rest) ← read cs
  let (others, rest) := many (fun cs => read (dropComma cs)) rest
  return (first :: others, dropComma rest)

/-! ## Attributes -/

/-- What stands between two quotation marks, with the marks. -/
def quoted? (quote : Char) : Reader (List Char) := fun cs =>
  match cs with
  | c :: rest =>
    if c = quote then
      match rest.dropWhile (· != quote) with
      | _ :: left => some (quote :: (rest.takeWhile (· != quote) ++ [quote]), left)
      | [] => none
    else none
  | [] => none

def value? : Reader (List Char) := fun cs =>
  quoted? '"' cs <|> quoted? '\'' cs <|> run? (!isGap ·) cs

/-- A key and its value, as they are written, around an equals sign. -/
def attribute? : Reader (List Char × List Char) := fun cs => do
  let (key, rest) ← run? isKeyChar (skip cs)
  match rest with
  | '=' :: rest =>
    let (value, rest) ← value? rest
    return ((key, value), rest)
  | _ => none

def attributes (cs : List Char) : List (List Char × List Char) × List Char := many attribute? cs

end Tabletop.Script
