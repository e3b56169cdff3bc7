import Tabletop.Instruction
import Tabletop.RefreshToken

/-!
# The journal of a table

The owner of a table writes every batch of instructions down, and others follow. Each batch has a
version, one higher than that of the batch before. After a batch that wipes the world nothing from
before is needed any more: it is dropped, and the journal takes a new refresh token.

* `Journal.append` adds a batch.
* `Journal.since` is what a follower at some version has missed.
-/

namespace Tabletop

/-- What a follower needs to catch up. -/
structure Parcel where
  token : RefreshToken
  /-- The version of the newest batch. -/
  version : Nat
  instructions : List Instruction
deriving DecidableEq

structure Journal where
  token : RefreshToken
  version : Nat
  /-- The batches with their versions, oldest first. -/
  entries : List (Nat × List Instruction)
deriving DecidableEq

namespace Journal

def start (token : RefreshToken) : Journal := ⟨token, 0, []⟩

/-- The part of a batch that begins with the last instruction that wipes the world. -/
def fromLastWipe? : List Instruction → Option (List Instruction)
  | [] => none
  | i :: rest =>
    match fromLastWipe? rest with
    | some later => some later
    | none => if i.wipesWorld then some (i :: rest) else none

/-- The journal with one more batch. A batch that wipes the world brings the fresh token. An empty
one is not written down. -/
def append (j : Journal) (fresh : RefreshToken) (batch : List Instruction) : Journal :=
  if batch.isEmpty then j
  else
    let version := j.version + 1
    match fromLastWipe? batch with
    | some kept => ⟨fresh, version, [(version, kept)]⟩
    | none => ⟨j.token, version, j.entries ++ [(version, batch)]⟩

/-- The instructions of all batches after a version. -/
def since (j : Journal) (version : Nat) : Parcel where
  token := j.token
  version := j.version
  instructions := (j.entries.filter fun (v, _) => version < v).flatMap (·.2)

end Journal

end Tabletop
