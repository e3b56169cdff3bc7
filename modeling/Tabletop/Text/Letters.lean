import Tabletop.Text.LetterTables

/-!
# Upper and lower case

* `foldAscii`, `sameFolded`: comparison of the letters `A` to `Z` without their case. All other
  characters stand for themselves.
* `lower`, `upper`: the full case maps. One character may become several, and a capital sigma at
  the end of a word becomes a final sigma.
-/

namespace Tabletop.Text

/-! ## ASCII letters -/

def foldAscii (cs : List Char) : List Char := cs.map Char.toLower

/-- Equality up to the case of ASCII letters. -/
def sameFolded (a b : String) : Bool := foldAscii a.toList == foldAscii b.toList

/-! ## Table look-up -/

def inRanges (ranges : List (Nat × Nat)) (c : Char) : Bool :=
  ranges.any fun (lo, hi) => lo ≤ c.toNat && c.toNat ≤ hi

def CaseRun.image? (run : CaseRun) (c : Char) : Option Char :=
  let n := c.toNat
  if run.first ≤ n && n ≤ run.last && (n - run.first) % run.step == 0 then
    some (Char.ofNat (n + run.shift).toNat)
  else none

def mapCase (ascii : Char → Char) (runs : List CaseRun) (expansions : List (Nat × List Nat))
    (c : Char) : List Char :=
  if c.toNat < 0x80 then [ascii c]
  else
    match expansions.find? (·.1 == c.toNat) with
    | some (_, several) => several.map Char.ofNat
    | none => [(runs.findSome? (·.image? c)).getD c]

def upperChar (c : Char) : List Char := mapCase Char.toUpper upperRuns upperExpansions c

def lowerChar (c : Char) : List Char := mapCase Char.toLower lowerRuns lowerExpansions c

/-! ## Whole texts -/

def isCaseIgnorable (c : Char) : Bool := inRanges caseIgnorableRanges c

/-- The first character that the case rules do not ignore is a letter with case. -/
def casedNext (cs : List Char) : Bool :=
  match cs.dropWhile isCaseIgnorable with
  | [] => false
  | c :: _ => inRanges casedRanges c

def capitalSigma : Char := Char.ofNat 0x3A3
def smallSigma : Char := Char.ofNat 0x3C3
def finalSigma : Char := Char.ofNat 0x3C2

/-- Lower case of `cs`, where `before` is what stands in front of it, last character first. -/
def lowerFrom : (before cs : List Char) → List Char
  | _, [] => []
  | before, c :: rest =>
    let here :=
      if c = capitalSigma then
        [if casedNext before && !casedNext rest then finalSigma else smallSigma]
      else lowerChar c
    here ++ lowerFrom (c :: before) rest

def lower (cs : List Char) : List Char := lowerFrom [] cs

def upper (cs : List Char) : List Char := cs.flatMap upperChar

/-- The full lower case of a text. -/
def lowered (s : String) : String := String.ofList (lower s.toList)

end Tabletop.Text
