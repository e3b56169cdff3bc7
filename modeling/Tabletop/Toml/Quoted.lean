import Tabletop.Text.Hex
import Tabletop.Toml.Terminals

/-!
# Quoted texts of TOML

A text stands between double quotes, where a backslash begins an escape, or between single quotes,
where every character stands for itself. With three quotes it may go over several lines.

* `text?` reads all four kinds.
* `lineText?` reads the two kinds that stay on their line, which is what a key may be.
-/

namespace Tabletop.Toml

/-! ## Escapes -/

/-- A character by its number in exactly that many hexadecimal digits. -/
def codePoint? (digits : Nat) (cs : List Char) : Option (Char × List Char) := do
  let n ← Text.ofHex? (cs.take digits)
  if digits ≤ cs.length && n.isValidChar then some (.ofNat n, cs.drop digits) else none

/-- The character that an escape after a backslash stands for. -/
def escape? : Reader Char
  | 'b' :: rest => some ('\x08', rest)
  | 't' :: rest => some ('\t', rest)
  | 'n' :: rest => some ('\n', rest)
  | 'f' :: rest => some ('\x0c', rest)
  | 'r' :: rest => some ('\r', rest)
  | '"' :: rest => some ('"', rest)
  | '\\' :: rest => some ('\\', rest)
  | 'u' :: rest => codePoint? 4 rest
  | 'U' :: rest => codePoint? 8 rest
  | _ => none

/-! ## On one line -/

/-- What follows an opening quote, up to the closing one. Escapes only count between double
quotes. -/
def lineBody (quote : Char) : (fuel : Nat) → Reader (List Char)
  | 0, _ => none
  | _, [] => none
  | fuel + 1, c :: rest =>
    if c = quote then some ([], rest)
    else if c = '\\' ∧ quote = '"' then do
      let (e, rest) ← escape? rest
      let (body, rest) ← lineBody quote fuel rest
      return (e :: body, rest)
    else if isPlain c then do
      let (body, rest) ← lineBody quote fuel rest
      return (c :: body, rest)
    else none

/-- A text between single or double quotes on one line. -/
def lineText? : Reader String
  | [] => none
  | quote :: rest =>
    if quote = '"' ∨ quote = '\'' then
      (lineBody quote (rest.length + 1) rest).map fun (body, rest) => (String.ofList body, rest)
    else none

/-! ## On several lines -/

def skipEmptyLines : List Char → List Char
  | '\n' :: rest => skipEmptyLines rest
  | '\r' :: '\n' :: rest => skipEmptyLines rest
  | c :: rest => if isGap c then skipEmptyLines rest else c :: rest
  | [] => []

/-- The white space after a backslash at the end of a line: it has at least one line end, and all of
it is left out. -/
def foldedLine? (cs : List Char) : Option (List Char) := do
  let rest ← newline? (skip cs)
  return skipEmptyLines rest

/-- Two quotes at most may stand within the text, even directly before the three that close it. -/
def closing? (quote : Char) (cs : List Char) : Option (List Char × List Char) :=
  let quotes := cs.takeWhile (· == quote)
  if 3 ≤ quotes.length ∧ quotes.length ≤ 5 then
    some (quotes.drop 3, cs.drop quotes.length)
  else none

def blockBody (quote : Char) : (fuel : Nat) → Reader (List Char)
  | 0, _ => none
  | _, [] => none
  | fuel + 1, c :: rest =>
    let goOn := fun (taken rest : List Char) => do
      let (body, rest) ← blockBody quote fuel rest
      return (taken ++ body, rest)
    if c = quote then
      let quotes := (c :: rest).takeWhile (· == quote)
      if quotes.length < 3 then goOn quotes (rest.drop (quotes.length - 1))
      else closing? quote (c :: rest)
    else if c = '\\' ∧ quote = '"' then
      match foldedLine? rest with
      | some rest => goOn [] rest
      | none => do
        let (e, rest) ← escape? rest
        goOn [e] rest
    else if isPlain c then goOn [c] rest
    else do
      let rest ← newline? (c :: rest)
      goOn ['\n'] rest

/-- A line end directly after the opening quotes is left out. -/
def blockText? (quote : Char) (cs : List Char) : Option (String × List Char) :=
  let cs := (newline? cs).getD cs
  (blockBody quote (cs.length + 1) cs).map fun (body, rest) => (String.ofList body, rest)

def text? (cs : List Char) : Option (String × List Char) :=
  match cs with
  | '"' :: '"' :: '"' :: rest => blockText? '"' rest
  | '\'' :: '\'' :: '\'' :: rest => blockText? '\'' rest
  | _ => lineText? cs

end Tabletop.Toml
