import Tabletop.Dict

/-!
# Attributes

The `key=value` pairs of a directive. Several keys may name one property; then the first of them
that is there counts.

* `first?` is the value at the first of several keys.
* `given?` is that value unless it is empty.
-/

namespace Tabletop

abbrev Attributes := Dict String String

namespace Attributes

def first? (attrs : Attributes) (keys : List String) : Option String :=
  keys.findSome? attrs.get?

def given? (attrs : Attributes) (keys : List String) : Option String :=
  (first? attrs keys).filter (! ·.isEmpty)

/-- The given value read as a number or the like; `none` when it cannot be read. -/
def read? {α : Type} (attrs : Attributes) (keys : List String) (read : List Char → Option α) :
    Option α :=
  (given? attrs keys).bind fun s => read s.toList

/-! ## What a `CREATE` names -/

/-- The definition that tokens are made from. -/
def reference? (attrs : Attributes) : Option String :=
  given? attrs ["code", "def", "template", "type"]

/-- The stem of the new ids: an explicit `id`, else the definition. -/
def stem? (attrs : Attributes) : Option String :=
  given? attrs ["id"] <|> reference? attrs

end Attributes

end Tabletop
