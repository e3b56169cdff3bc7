import Tabletop.Json.Number
import Tabletop.Json.Quoted

/-!
# Reading JSON texts

A text becomes a list of tokens, and the tokens become a value.

* `lex` goes through the characters once; what it keeps in mind is a `Lexing`.
* `accept` goes through the tokens once; what is open around the next token is a stack of `Frame`s.
* `read?` is both, one after the other. `readFields?` does it for a record of which only some fields
  matter.

A well-formed text may still hold what has no value: half a character, a number that is too large, or
a list or record that is nested 128 deep. Such a part is `none` here, and so is everything around it,
except a field that does not matter.
-/

namespace Tabletop.Json

/-! ## Tokens -/

inductive Token where
  | openList
  | closeList
  | openRecord
  | closeRecord
  | comma
  | colon
  | text (s : Option String)
  | scalar (v : Option Json)

/-- Where the next character stands: between tokens, in a word or number, in a quoted text, or
after a backslash in one. The characters so far are kept last first. -/
inductive Lexing where
  | between
  | word (before : List Char)
  | quoted (before : List Char)
  | escaped (before : List Char)

def isSpace (c : Char) : Bool := c == ' ' || c == '\n' || c == '\t' || c == '\r'

def isWordChar (c : Char) : Bool := c.isAlphanum || c == '-' || c == '+' || c == '.'

def mark? (c : Char) : Option Token :=
  if c = '[' then some .openList
  else if c = ']' then some .closeList
  else if c = '\x7b' then some .openRecord
  else if c = '\x7d' then some .closeRecord
  else if c = ',' then some .comma
  else if c = ':' then some .colon
  else none

def wordToken? (w : List Char) : Option Token :=
  if w = ['t', 'r', 'u', 'e'] then some (.scalar (some (.bool true)))
  else if w = ['f', 'a', 'l', 's', 'e'] then some (.scalar (some (.bool false)))
  else if w = ['n', 'u', 'l', 'l'] then some (.scalar (some .null))
  else (numeral? w).map (.scalar ·.value?)

/-- A character between tokens: what it begins, and the token that it is by itself. -/
def start? (c : Char) : Option (List Token × Lexing) :=
  if isSpace c then some ([], .between)
  else if c = '"' then some ([], .quoted [])
  else if isWordChar c then some ([], .word [c])
  else (mark? c).map fun t => ([t], .between)

def lex : Lexing → List Char → Option (List Token)
  | .between, [] => some []
  | .word before, [] => (wordToken? before.reverse).map ([·])
  | .quoted _, [] => none
  | .escaped _, [] => none
  | .between, c :: rest => do
    let (tokens, state) ← start? c
    (lex state rest).map (tokens ++ ·)
  | .word before, c :: rest =>
    if isWordChar c then lex (.word (c :: before)) rest
    else do
      let token ← wordToken? before.reverse
      let (tokens, state) ← start? c
      (lex state rest).map (token :: tokens ++ ·)
  | .quoted before, c :: rest =>
    if c = '"' then do
      let pieces ← pieces? before.reverse
      (lex .between rest).map (.text ((characters? pieces).map String.ofList) :: ·)
    else if c = '\\' then lex (.escaped (c :: before)) rest
    else lex (.quoted (c :: before)) rest
  | .escaped before, c :: rest => lex (.quoted (c :: before)) rest

/-! ## Values -/

/-- A list or a record that is not closed yet, with what it holds so far, last first. In a `field`
frame the value of that key is still to come. -/
inductive Frame where
  | items (done : Option (List Json))
  | fields (done : Option (List (String × Json)))
  | field (done : Option (List (String × Json))) (key : Option String)

/-- What may come next. -/
inductive Expected where
  | value
  | firstItem
  | firstKey
  | key
  | colon
  | separator
  | nothing (result : Option Json)

structure Reading where
  expected : Expected
  stack : List Frame

def withItem (v : Option Json) (done : Option (List Json)) : Option (List Json) := do
  return (← v) :: (← done)

def withField (key : Option String) (v : Option Json) (done : Option (List (String × Json))) :
    Option (List (String × Json)) := do
  return (← key, ← v) :: (← done)

/-- Whether a field is passed over: one of the outermost record that does not matter. -/
def isPassedOver (matters : String → Bool) (key : Option String) (around : List Frame) : Bool :=
  around.isEmpty && key.any (!matters ·)

/-- A value is complete: it goes into what is open around it. -/
def deliver (matters : String → Bool) (v : Option Json) : List Frame → Option Reading
  | [] => some ⟨.nothing v, []⟩
  | .items done :: stack => some ⟨.separator, .items (withItem v done) :: stack⟩
  | .field done key :: stack =>
    let done := if isPassedOver matters key stack then done else withField key v done
    some ⟨.separator, .fields done :: stack⟩
  | .fields _ :: _ => none

/-- The number of frames around a list or a record that still has a value. -/
def deepest : Nat := 126

/-- What a new frame holds. It cannot become a value when too much is open around it. -/
def nothingYet {α : Type} (stack : List Frame) : Option (List α) :=
  if (stack.drop deepest).isEmpty then some [] else none

def beginValue (matters : String → Bool) (stack : List Frame) : Token → Option Reading
  | .openList => some ⟨.firstItem, .items (nothingYet stack) :: stack⟩
  | .openRecord => some ⟨.firstKey, .fields (nothingYet stack) :: stack⟩
  | .text s => deliver matters (s.map .text) stack
  | .scalar v => deliver matters v stack
  | _ => none

def beginKey (stack : List Frame) (s : Option String) : Option Reading :=
  match stack with
  | .fields done :: below => some ⟨.colon, .field done s :: below⟩
  | _ => none

def closeFrame (matters : String → Bool) : List Frame → Token → Option Reading
  | .items done :: stack, .closeList =>
    deliver matters (done.map fun items => .list items.reverse) stack
  | .fields done :: stack, .closeRecord =>
    deliver matters (done.map fun fields => .record fields.reverse) stack
  | _, _ => none

def accept (matters : String → Bool) (r : Reading) (t : Token) : Option Reading :=
  match r.expected with
  | .value => beginValue matters r.stack t
  | .firstItem =>
    match t with
    | .closeList => closeFrame matters r.stack t
    | _ => beginValue matters r.stack t
  | .firstKey =>
    match t with
    | .closeRecord => closeFrame matters r.stack t
    | .text s => beginKey r.stack s
    | _ => none
  | .key =>
    match t with
    | .text s => beginKey r.stack s
    | _ => none
  | .colon =>
    match t with
    | .colon => some ⟨.value, r.stack⟩
    | _ => none
  | .separator =>
    match t, r.stack with
    | .comma, .items _ :: _ => some ⟨.value, r.stack⟩
    | .comma, .fields _ :: _ => some ⟨.key, r.stack⟩
    | _, _ => closeFrame matters r.stack t
  | .nothing _ => none

def acceptAll (matters : String → Bool) (r : Reading) : List Token → Option Reading
  | [] => some r
  | t :: rest => do acceptAll matters (← accept matters r t) rest

/-- The value of a text whose outermost record has fields that do not matter. -/
def readWhere? (matters : String → Bool) (text : String) : Option Json := do
  let tokens ← lex .between text.toList
  match (← acceptAll matters ⟨.value, []⟩ tokens).expected with
  | .nothing v => v
  | _ => none

/-- The value of a JSON text; `none` if the text is malformed or holds what has no value. -/
def read? (text : String) : Option Json := readWhere? (fun _ => true) text

/-- The value of a text, where the outermost record keeps the named fields only. What the others hold
need not have a value. -/
def readFields? (names : List String) (text : String) : Option Json :=
  readWhere? names.contains text

end Tabletop.Json
