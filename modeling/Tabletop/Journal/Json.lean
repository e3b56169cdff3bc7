import Tabletop.Instruction.Json
import Tabletop.Journal

/-!
# Parcels as JSON

A parcel travels as a record of its refresh token, its version and its instructions.
`Parcel.ofText?` reads what `Parcel.text` writes; further fields are passed over, whatever they hold.
-/

namespace Tabletop

open Json

namespace Parcel

def toJson (p : Parcel) : Json :=
  .record
    [("refresh_token", .text p.token.text), ("version", nat p.version),
      ("instructions", listOf Instruction.toJson p.instructions)]

def fieldNames : List String := ["refresh_token", "version", "instructions"]

def ofJson? (j : Json) : Option Parcel := do
  match ← fields? fieldNames j with
  | [token, version, instructions] =>
    return {
      token := ← (← required asText? token) |> RefreshToken.ofText?
      version := ← required (asNat? Decimal.word64) version
      instructions := ← required (asList? Instruction.ofJson?) instructions }
  | _ => none

def text (p : Parcel) : String := p.toJson.compact

def ofText? (s : String) : Option Parcel := (readFields? fieldNames s).bind ofJson?

end Parcel

end Tabletop
