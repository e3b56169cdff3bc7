import Tabletop.Text.Hex
import Tabletop.Text.Letters

/-!
# Refresh tokens

A journal that has been wiped takes a new token, so that whoever follows it can tell. A token is a
UUID: 128 bits, written as 32 hexadecimal digits in groups of 8, 4, 4, 4 and 12.

* `text` writes the digits in lower case with hyphens between the groups.
* `ofText?` reads them in either case, with the hyphens or without any. With hyphens they may also
  stand in braces or after `urn:uuid:`, again in either case.
-/

namespace Tabletop

structure RefreshToken where
  bits : BitVec 128
deriving DecidableEq

namespace RefreshToken

/-- The sizes of the groups of digits. -/
def groups : List Nat := [8, 4, 4, 4, 12]

/-! ## Writing -/

/-- Cuts a text into groups with hyphens between. -/
def hyphenate : List Nat → List Char → List Char
  | [], cs => cs
  | [_], cs => cs
  | size :: sizes, cs => cs.take size ++ '-' :: hyphenate sizes (cs.drop size)

def text (t : RefreshToken) : String :=
  String.ofList (hyphenate groups (Text.hexDigits t.bits.toNat 32))

/-! ## Reading -/

def ofDigits? (cs : List Char) : Option RefreshToken := do
  let n ← Text.ofHex? cs
  if cs.length = 32 then some ⟨BitVec.ofNat 128 n⟩ else none

/-- The text without the hyphens, if they stand between the groups. -/
def withoutHyphens? : List Nat → List Char → Option (List Char)
  | [], cs => if cs.isEmpty then some [] else none
  | [size], cs => if cs.length = size then some cs else none
  | size :: sizes, cs =>
    match cs.drop size with
    | '-' :: rest => (withoutHyphens? sizes rest).map (cs.take size ++ ·)
    | _ => none

/-- The text without what may stand around the groups. -/
def bare (cs : List Char) : List Char :=
  let head := "urn:uuid:".toList
  if head.isPrefixOf (Text.foldAscii cs) then cs.drop head.length
  else
    match cs with
    | '\x7b' :: rest => if rest.getLast? = some '\x7d' then rest.dropLast else cs
    | _ => cs

def ofText? (s : String) : Option RefreshToken :=
  ofDigits? s.toList <|> (withoutHyphens? groups (bare s.toList)).bind ofDigits?

end RefreshToken

end Tabletop
