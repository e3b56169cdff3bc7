import Tabletop.Toml.Date
import Tabletop.Toml.Number
import Tabletop.Toml.Quoted
import Tabletop.Toml.Table

/-!
# Reading TOML texts

A text is a sequence of lines: headers, which begin a table, and keys with values. `read?` gives the
whole text as one record. A date in it is a record with one field, and what it holds is left out.

Lists and tables in braces nest less than 80 deep, and a key has less than 80 parts.
-/

namespace Tabletop.Toml

/-- The nesting that is too deep. -/
def tooDeep : Nat := 80

/-! ## Keys -/

def isBareKeyChar (c : Char) : Bool := c.isAlphanum || c == '-' || c == '_'

def keyPart? (cs : List Char) : Option (String × List Char) :=
  match lineText? cs with
  | some part => some part
  | none =>
    let part := cs.takeWhile isBareKeyChar
    if part.isEmpty then none else some (String.ofList part, cs.dropWhile isBareKeyChar)

def keyParts? : (fuel : Nat) → Reader (List String)
  | 0, _ => none
  | fuel + 1, cs => do
    let (part, rest) ← keyPart? (skip cs)
    match skip rest with
    | '.' :: rest =>
      let (parts, rest) ← keyParts? fuel rest
      return (part :: parts, rest)
    | rest => return ([part], rest)

/-- A key with its parts, and with the blanks around it. -/
def key? (cs : List Char) : Option (List String × List Char) := do
  let (parts, rest) ← keyParts? (cs.length + 1) cs
  if parts.length < tooDeep then some (parts, rest) else none

/-- A key with the mark after it that comes before the value. -/
def keyBeforeValue? (cs : List Char) : Option (List String × List Char) := do
  let (key, rest) ← key? cs
  return (key, skip (← expect? ['='] rest))

/-! ## Values -/

def bool? (cs : List Char) : Option (Json × List Char) :=
  match expect? "true".toList cs, expect? "false".toList cs with
  | some rest, _ => some (.bool true, rest)
  | _, some rest => some (.bool false, rest)
  | none, none => none

/-- What a date or a time of day is read as. -/
def date : Json := .record [("date", .null)]

/-- A value that does not hold others. -/
def scalar? (cs : List Char) : Option (Json × List Char) :=
  match text? cs with
  | some (s, rest) => some (.text s, rest)
  | none =>
    match moment? cs with
    | some rest => some (date, rest)
    | none => number? cs <|> bool? cs

mutual

/-- A value at a depth of nesting. -/
def value? (depth : Nat) : (fuel : Nat) → Reader Json
  | 0, _ => none
  | fuel + 1, cs =>
    match cs with
    | '[' :: rest =>
      if depth + 1 < tooDeep then
        (items? (depth + 1) fuel rest).map fun (items, rest) => (.list items, rest)
      else none
    | '\x7b' :: rest =>
      if depth + 1 < tooDeep then
        match skip rest with
        | '\x7d' :: rest => some (.record [], rest)
        | rest =>
          (pairs? (depth + 1) fuel [] rest).map fun (entries, rest) => (entries.toJson, rest)
      else none
    | _ => scalar? cs

/-- The items of a list up to its end. The last one may have a comma after it. -/
def items? (depth : Nat) : (fuel : Nat) → Reader (List Json)
  | 0, _ => none
  | fuel + 1, cs => do
    match ← skipLines? cs with
    | ']' :: rest => return ([], rest)
    | cs =>
      let (v, rest) ← value? depth fuel cs
      match ← skipLines? rest with
      | ',' :: rest =>
        let (items, rest) ← items? depth fuel rest
        return (v :: items, rest)
      | ']' :: rest => return ([v], rest)
      | _ => none

/-- The keys and values of a table in braces up to its end. -/
def pairs? (depth : Nat) : (fuel : Nat) → Entries → Reader Entries
  | 0, _, _ => none
  | fuel + 1, entries, cs => do
    let (key, rest) ← keyBeforeValue? cs
    let (v, rest) ← value? depth fuel rest
    let entries ← entries.assign? v key
    match skip rest with
    | ',' :: rest => pairs? depth fuel entries rest
    | '\x7d' :: rest => return (entries, rest)
    | _ => none

end

/-! ## Lines -/

/-- What has been read, and the path of the table that the next key goes to. -/
structure Document where
  entries : Entries
  path : List String

/-- The path of a header up to the end of its line. -/
def header? (closing : List Char) (cs : List Char) : Option (List String × List Char) := do
  let (path, rest) ← key? cs
  return (path, ← lineEnd? (← expect? closing rest))

/-- The rest of a text from the beginning of a line that is not empty. -/
def line? (d : Document) (cs : List Char) : Option (Document × List Char) :=
  match cs with
  | '[' :: '[' :: rest => do
    let (path, rest) ← header? [']', ']'] rest
    return (⟨← d.entries.openItem? path, path⟩, rest)
  | '[' :: rest => do
    let (path, rest) ← header? [']'] rest
    return (⟨← d.entries.open? path, path⟩, rest)
  | _ => do
    let (key, rest) ← keyBeforeValue? cs
    let (v, rest) ← value? 0 (2 * rest.length + 2) rest
    let entries ← d.entries.within? (·.assign? v key) d.path
    return (⟨entries, d.path⟩, ← lineEnd? rest)

/-- All lines. A line takes at least one character. -/
def linesWith (d : Document) : (fuel : Nat) → List Char → Option Document
  | 0, _ => none
  | fuel + 1, cs =>
    match skip cs with
    | [] => some d
    | cs =>
      match lineEnd? cs with
      | some rest => linesWith d fuel rest
      | none => do
        let (d, rest) ← line? d cs
        linesWith d fuel rest

/-- A byte order mark in front of a text is left out. -/
def withoutMark : List Char → List Char
  | '\ufeff' :: rest => rest
  | cs => cs

/-- The record that a TOML text stands for. -/
def read? (text : String) : Option Json := do
  let cs := withoutMark text.toList
  let d ← linesWith ⟨[], []⟩ (cs.length + 1) cs
  return d.entries.toJson

end Tabletop.Toml
