import Tabletop.Journal
import Tabletop.World.Step

/-!
# Followers

A follower keeps a copy of a world that somebody else changes. When it polls, it asks a source for
what it has missed and applies it. If the source has a new refresh token, then its own copy is worth
nothing: it asks for everything and begins again.

* `Follower.poll` is one poll. A poll that fails changes nothing.
-/

namespace Tabletop

/-- Answers a request for what came after a version; `none` when it cannot be reached. -/
abbrev Source := Nat → Option Parcel

structure Follower where
  rules : Rules
  world : World
  version : Nat
  token : Option RefreshToken

inductive PollOutcome where
  /-- That many new instructions. -/
  | updated (count : Nat)
  /-- That many instructions from the beginning. -/
  | reloaded (count : Nat)
  | idle
  | failed
deriving DecidableEq

structure Poll where
  follower : Follower
  outcome : PollOutcome
  events : List Event
  /-- The versions that were asked for. -/
  requests : List Nat

namespace Follower

def start (rules : Rules) : Follower := ⟨rules, .empty, 0, none⟩

def catchUp (f : Follower) (world : World) (p : Parcel) : Follower × List Event :=
  let (world, events) := world.apply f.rules p.instructions
  (⟨f.rules, world, p.version, some p.token⟩, events)

/-- Begins again with everything that the source has. The request may fail although the one before
it did not. -/
def reload (f : Follower) (source : Source) (token : RefreshToken) : Poll :=
  let note := Event.note s!"refresh token changed to {token.text}; reloading"
  match source 0 with
  | none => ⟨f, .failed, [note], [f.version, 0]⟩
  | some everything =>
    let (follower, events) := f.catchUp .empty everything
    ⟨follower, .reloaded everything.instructions.length, note :: events, [f.version, 0]⟩

/-- One poll. The first request goes to `source`, and one for everything goes to `again`. -/
def poll (f : Follower) (source again : Source) : Poll :=
  match source f.version with
  | none => ⟨f, .failed, [], [f.version]⟩
  | some news =>
    if f.token.any (· != news.token) then f.reload again news.token
    else
      let (follower, events) := f.catchUp f.world news
      let count := news.instructions.length
      ⟨follower, if count = 0 then .idle else .updated count, events, [f.version]⟩

end Follower

end Tabletop
