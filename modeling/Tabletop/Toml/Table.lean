import Tabletop.Json

/-!
# Tables under construction

A TOML text gives its tables piece by piece. What has been given so far is a tree of entries, and
every table remembers how it came to be, since this decides what may still be added.

* `Entries.assign?` gives a value to a key with dots.
* `Entries.within?` goes to the table of a header.
* `Entries.open?` and `Entries.openItem?` begin the table of a header in single or double brackets.
-/

namespace Tabletop.Toml

/-- How a table came to be: by a header of its own, by a longer header, or by a key with dots. -/
inductive Origin where
  | header
  | implied
  | dotted
deriving DecidableEq

inductive Entry where
  /-- Nothing can be added to a value, be it a list or a table in braces. -/
  | value (v : Json)
  | table (origin : Origin) (entries : List (String × Entry))
  /-- The tables of headers in double brackets. -/
  | tables (items : List (List (String × Entry)))

abbrev Entries := List (String × Entry)

namespace Entries

def get? (entries : Entries) (key : String) : Option Entry :=
  (entries.find? (·.1 == key)).map (·.2)

/-- The entry takes the place of the one with its key, or goes to the end. -/
def set (key : String) (entry : Entry) : Entries → Entries
  | [] => [(key, entry)]
  | (k, e) :: rest => if k = key then (k, entry) :: rest else (k, e) :: set key entry rest

/-- The change of the last of several tables. -/
def atLast? (f : Entries → Option Entries) : List Entries → Option (List Entries)
  | [] => none
  | [last] => (f last).map ([·])
  | first :: rest => (atLast? f rest).map (first :: ·)

/-- A table that a key with dots goes through was opened by no header; and the one that it ends in
was made by a key with dots. -/
def isOpenTo (origin : Origin) (isLast : Bool) : Bool :=
  match origin with
  | .header => false
  | .implied => !isLast
  | .dotted => true

/-- The entries with a value for a key, which is given as its parts. A key is given once. -/
def assign? (v : Json) : (key : List String) → Entries → Option Entries
  | [], _ => none
  | [key], entries => if (get? entries key).isSome then none else some (set key (.value v) entries)
  | key :: rest, entries =>
    match get? entries key with
    | none => (assign? v rest []).map fun inner => set key (.table .dotted inner) entries
    | some (.table origin inner) =>
      if isOpenTo origin (rest.length == 1) then
        (assign? v rest inner).map fun inner => set key (.table origin inner) entries
      else none
    | some (.tables items) =>
      if rest.length = 1 then none
      else (atLast? (assign? v rest) items).map fun items => set key (.tables items) entries
    | some (.value _) => none

/-- A change of the table that a header names. Of several tables the last one is meant. -/
def within? (f : Entries → Option Entries) : (path : List String) → Entries → Option Entries
  | [], entries => f entries
  | key :: rest, entries =>
    match get? entries key with
    | none => (within? f rest []).map fun inner => set key (.table .implied inner) entries
    | some (.table origin inner) =>
      (within? f rest inner).map fun inner => set key (.table origin inner) entries
    | some (.tables items) =>
      (atLast? (within? f rest) items).map fun items => set key (.tables items) entries
    | some (.value _) => none

/-- Begins a table. It may be there only as part of a longer header. -/
def openHere? (key : String) (entries : Entries) : Option Entries :=
  match get? entries key with
  | none => some (set key (.table .header []) entries)
  | some (.table .implied inner) => some (set key (.table .header inner) entries)
  | some _ => none

/-- Begins one more of several tables. -/
def openItemHere? (key : String) (entries : Entries) : Option Entries :=
  match get? entries key with
  | none => some (set key (.tables [[]]) entries)
  | some (.tables items) => some (set key (.tables (items ++ [[]])) entries)
  | some _ => none

def open? (path : List String) (entries : Entries) : Option Entries := do
  within? (openHere? (← path.getLast?)) path.dropLast entries

def openItem? (path : List String) (entries : Entries) : Option Entries := do
  within? (openItemHere? (← path.getLast?)) path.dropLast entries

end Entries

/-! ## Values -/

mutual

def Entry.toJson : Entry → Json
  | .value v => v
  | .table _ entries => .record (fieldsOf entries)
  | .tables items => .list (itemsOf items)

def fieldsOf : List (String × Entry) → List (String × Json)
  | [] => []
  | (key, e) :: rest => (key, e.toJson) :: fieldsOf rest

def itemsOf : List (List (String × Entry)) → List Json
  | [] => []
  | entries :: rest => .record (fieldsOf entries) :: itemsOf rest

end

/-- Finished entries as a record. -/
def Entries.toJson (entries : Entries) : Json := .record (fieldsOf entries)

end Tabletop.Toml
