/-!
# Cutting and replacing

* `cut` and `cutLast` divide a text at the first or the last character of a class and drop that
  character; `none` when there is no such character.
* `replace` exchanges every occurrence of a pattern, from the left and without overlap.
-/

namespace Tabletop.Text

def cut (p : Char → Bool) : List Char → Option (List Char × List Char)
  | [] => none
  | c :: rest => if p c then some ([], rest) else (cut p rest).map fun (a, b) => (c :: a, b)

def cutLast (p : Char → Bool) : List Char → Option (List Char × List Char)
  | [] => none
  | c :: rest =>
    match cutLast p rest with
    | some (a, b) => some (c :: a, b)
    | none => if p c then some ([], rest) else none

/-- What follows `head`, if the text begins with it. -/
def after? : (head text : List Char) → Option (List Char)
  | [], text => some text
  | _ :: _, [] => none
  | h :: head, c :: text => if h = c then after? head text else none

def endsWith (tail text : List Char) : Bool := tail.reverse.isPrefixOf text.reverse

/-- The replacement with a countdown: while it is positive, characters of an occurrence that has
been exchanged already are passed over. -/
def replaceFrom (pattern by' : List Char) : Nat → List Char → List Char
  | _, [] => []
  | skip + 1, _ :: rest => replaceFrom pattern by' skip rest
  | 0, c :: rest =>
    if pattern.isPrefixOf (c :: rest) then by' ++ replaceFrom pattern by' (pattern.length - 1) rest
    else c :: replaceFrom pattern by' 0 rest

/-- Every occurrence of the non-empty `pattern` exchanged for `by'`. -/
def replace (pattern by' text : List Char) : List Char := replaceFrom pattern by' 0 text

/-- Whether `part` occurs in the text. -/
def hasPart (part : List Char) : List Char → Bool
  | [] => part.isEmpty
  | c :: rest => part.isPrefixOf (c :: rest) || hasPart part rest

end Tabletop.Text
