import Tabletop.Follower
import Tabletop.Proofs.Journal

/-!
# Replication

A leader applies batches and writes them down; a follower polls, and what it asks for may fail or be
answered from the journal as it stands at that moment. Between the two requests of a reload the
leader may go on.

* `Leader` and `Replica` are the two sides with their histories: all batches and tokens of a leader,
  and the lists that a follower has applied since it last began with the empty world.
* `Reached` are the pairs that commits and polls lead to, in any order.
* `Replica.PollCase` lists what a poll can come to.
* `Tracks` is the invariant: as long as no token comes twice, what a follower with the token of the
  journal has applied is what the journal has up to its version.
* Nothing is lost, repeated or out of order, and a poll that fails changes nothing.
-/

namespace Tabletop

/-! ## The leader -/

/-- Whoever has the journal, with the history of it. -/
structure Leader where
  world : World
  journal : Journal
  /-- All batches that were not empty, oldest first. -/
  batches : List (List Instruction)
  /-- All tokens that the journal has had, oldest first. -/
  tokens : List RefreshToken

namespace Leader

def start (token : RefreshToken) : Leader := ⟨.empty, .start token, [], [token]⟩

/-- One more batch, by rules that are at most new in the seed of the clock. -/
def commit (settings : Settings) (clockSeed : UInt64) (fresh : RefreshToken) (l : Leader)
    (batch : List Instruction) : Leader where
  world := (l.world.apply (.ofSettings settings clockSeed) batch).1
  journal := l.journal.append fresh batch
  batches := if batch.isEmpty then l.batches else l.batches ++ [batch]
  tokens := if (Journal.fromLastWipe? batch).isSome then l.tokens ++ [fresh] else l.tokens

/-- What a leader gets to from another state by commits. -/
inductive Later (settings : Settings) (l : Leader) : Leader → Prop where
  | now : Later settings l l
  | commit {l' : Leader} (clockSeed : UInt64) (fresh : RefreshToken) (batch : List Instruction)
      (h : Later settings l l') : Later settings l (l'.commit settings clockSeed fresh batch)

structure Sound (l : Leader) : Prop where
  keeps : l.journal.Keeps l.batches
  token : l.journal.token ∈ l.tokens

variable {settings : Settings} {clockSeed : UInt64} {fresh : RefreshToken} {l l' : Leader}

theorem commit_nil : l.commit settings clockSeed fresh [] = l := rfl

theorem commit_batches {batch : List Instruction} (h : batch ≠ []) :
    (l.commit settings clockSeed fresh batch).batches = l.batches ++ [batch] :=
  if_neg (by simpa using h)

theorem commit_tokens_of_none {batch : List Instruction} (h : Journal.fromLastWipe? batch = none) :
    (l.commit settings clockSeed fresh batch).tokens = l.tokens := by
  rw [commit, h]
  rfl

theorem commit_tokens_of_some {batch kept : List Instruction}
    (h : Journal.fromLastWipe? batch = some kept) :
    (l.commit settings clockSeed fresh batch).tokens = l.tokens ++ [fresh] := by
  rw [commit, h]
  rfl

theorem sound_start (token : RefreshToken) : (start token).Sound :=
  ⟨Journal.keeps_start token, by simp [start, Journal.start]⟩

theorem Sound.commit (h : l.Sound) (batch : List Instruction) :
    (l.commit settings clockSeed fresh batch).Sound := by
  by_cases hne : batch = []
  · rw [hne, commit_nil]
    exact h
  · refine ⟨?_, ?_⟩
    · rw [commit_batches hne]
      exact h.keeps.append fresh hne
    · cases hwipe : Journal.fromLastWipe? batch with
      | none =>
        rw [commit_tokens_of_none hwipe, Leader.commit, Journal.append_of_none hne hwipe]
        exact h.token
      | some kept =>
        rw [commit_tokens_of_some hwipe, Leader.commit, Journal.append_of_some hwipe]
        exact List.mem_append_right _ List.mem_cons_self

theorem tokens_prefix_commit (batch : List Instruction) :
    l.tokens <+: (l.commit settings clockSeed fresh batch).tokens := by
  cases hwipe : Journal.fromLastWipe? batch with
  | none =>
    rw [commit_tokens_of_none hwipe]
  | some kept =>
    rw [commit_tokens_of_some hwipe]
    exact List.prefix_append _ _

theorem Sound.later (h : l.Sound) (later : Later settings l l') : l'.Sound := by
  induction later with
  | now => exact h
  | commit clockSeed fresh batch _ ih => exact ih.commit batch

end Leader

/-! ## The follower -/

/-- The answers of a journal, or none if it cannot be reached. -/
def Journal.answer (j : Journal) (reached : Bool) : Source :=
  fun version => if reached then some (j.since version) else none

theorem Journal.answer_eq_some {j : Journal} {reached : Bool} {version : Nat} {p : Parcel}
    (h : j.answer reached version = some p) : reached = true ∧ p = j.since version := by
  unfold Journal.answer at h
  split at h
  · exact ⟨‹_›, (Option.some.inj h).symm⟩
  · cases h

theorem Journal.answer_eq_none {j : Journal} {reached : Bool} {version : Nat} :
    j.answer reached version = none ↔ reached = false := by
  cases reached with
  | false => exact iff_of_true rfl rfl
  | true => simp [Journal.answer]

namespace Follower

variable {f : Follower} {source again : Source} {news everything : Parcel}

theorem poll_of_none (again : Source) (h : source f.version = none) :
    f.poll source again = ⟨f, .failed, [], [f.version]⟩ := by
  rw [poll, h]

theorem poll_of_known (again : Source) (h : source f.version = some news)
    (known : f.token.any (· != news.token) = false) :
    f.poll source again =
      ⟨(f.catchUp f.world news).1,
        if news.instructions.length = 0 then .idle else .updated news.instructions.length,
        (f.catchUp f.world news).2, [f.version]⟩ := by
  rw [poll, h]
  dsimp only
  rw [known]
  rfl

theorem poll_of_unknown (again : Source) (h : source f.version = some news)
    (unknown : f.token.any (· != news.token) = true) :
    f.poll source again = f.reload again news.token := by
  rw [poll, h]
  dsimp only
  rw [if_pos unknown]

theorem reload_of_none (h : again 0 = none) (token : RefreshToken) :
    ∃ events, f.reload again token = ⟨f, .failed, events, [f.version, 0]⟩ := by
  rw [reload, h]
  exact ⟨_, rfl⟩

theorem reload_of_some (h : again 0 = some everything) (token : RefreshToken) :
    ∃ events, f.reload again token =
      ⟨(f.catchUp .empty everything).1, .reloaded everything.instructions.length, events,
        [f.version, 0]⟩ := by
  rw [reload, h]
  exact ⟨_, rfl⟩

end Follower

/-- A follower with the lists that it has applied since it last began with the empty world. -/
structure Replica where
  follower : Follower
  lots : List (List Instruction)

namespace Replica

def start (rules : Rules) : Replica := ⟨.start rules, []⟩

/-- What a source gives for a version. -/
def given (source : Source) (version : Nat) : List Instruction :=
  ((source version).map (·.instructions)).getD []

def poll (r : Replica) (source again : Source) : Replica where
  follower := (r.follower.poll source again).follower
  lots :=
    match (r.follower.poll source again).outcome with
    | .failed => r.lots
    | .idle | .updated _ => r.lots ++ [given source r.follower.version]
    | .reloaded _ => [given again 0]

/-- What a poll can come to. -/
inductive PollCase (r : Replica) (source again : Source) : Prop where
  | failed (outcome : (r.follower.poll source again).outcome = .failed)
      (result : r.poll source again = r)
      (cause : source r.follower.version = none ∨
        (r.follower.poll source again).requests.length = 2 ∧ again 0 = none)
  | caughtUp (news : Parcel) (answer : source r.follower.version = some news)
      (known : ∀ token, r.follower.token = some token → token = news.token)
      (outcome : (r.follower.poll source again).outcome ≠ .failed)
      (requests : (r.follower.poll source again).requests.length = 1)
      (result : r.poll source again =
        ⟨⟨r.follower.rules, (r.follower.world.apply r.follower.rules news.instructions).1,
          news.version, some news.token⟩, r.lots ++ [news.instructions]⟩)
  | reloaded (news everything : Parcel) (answer : source r.follower.version = some news)
      (second : again 0 = some everything)
      (unknown : ∃ token, r.follower.token = some token ∧ token ≠ news.token)
      (outcome : (r.follower.poll source again).outcome ≠ .failed)
      (requests : (r.follower.poll source again).requests.length = 2)
      (result : r.poll source again =
        ⟨⟨r.follower.rules, (World.empty.apply r.follower.rules everything.instructions).1,
          everything.version, some everything.token⟩, [everything.instructions]⟩)

theorem pollCase (r : Replica) (source again : Source) : PollCase r source again := by
  cases hsource : source r.follower.version with
  | none =>
    have hpoll := Follower.poll_of_none again hsource
    refine .failed ?_ ?_ (.inl hsource)
    · rw [hpoll]
    · rw [poll, hpoll]
  | some news =>
    cases hknown : r.follower.token.any (· != news.token) with
    | false =>
      have hpoll := Follower.poll_of_known again hsource hknown
      refine .caughtUp news hsource (fun token htoken => ?_) ?_ ?_ ?_
      · rw [htoken] at hknown
        simpa using hknown
      · rw [hpoll]
        dsimp only
        split <;> simp
      · rw [hpoll]
        rfl
      · rw [poll, hpoll, given, hsource]
        by_cases hcount : news.instructions.length = 0
        · rw [if_pos hcount]
          rfl
        · rw [if_neg hcount]
          rfl
    | true =>
      obtain ⟨token, htoken, hne⟩ := (Option.any_eq_true _ _).mp hknown
      have hreload := Follower.poll_of_unknown again hsource hknown
      cases hagain : again 0 with
      | none =>
        obtain ⟨events, hpoll⟩ := Follower.reload_of_none (f := r.follower) hagain news.token
        rw [← hreload] at hpoll
        refine .failed ?_ ?_ (.inr ⟨?_, hagain⟩)
        · rw [hpoll]
        · rw [poll, hpoll]
        · rw [hpoll]
          rfl
      | some everything =>
        obtain ⟨events, hpoll⟩ := Follower.reload_of_some (f := r.follower) hagain news.token
        rw [← hreload] at hpoll
        refine .reloaded news everything hsource hagain ⟨token, htoken, ?_⟩ ?_ ?_ ?_
        · simpa using hne
        · rw [hpoll]
          simp
        · rw [hpoll]
          rfl
        · rw [poll, hpoll]
          dsimp only
          rw [given, hagain]
          rfl

end Replica

/-! ## Runs -/

/-- What commits and polls lead to, in any order. A request may fail, and the leader may commit
between the two requests of a poll. -/
inductive Reached (settings : Settings) : Leader → Replica → Prop where
  | start (token : RefreshToken) (clockSeed : UInt64) :
      Reached settings (.start token) (.start (.ofSettings settings clockSeed))
  | commit {l : Leader} {r : Replica} (clockSeed : UInt64) (fresh : RefreshToken)
      (batch : List Instruction) (h : Reached settings l r) :
      Reached settings (l.commit settings clockSeed fresh batch) r
  | poll {l l' : Leader} {r : Replica} (first second : Bool) (h : Reached settings l r)
      (later : l.Later settings l') :
      Reached settings l' (r.poll (l.journal.answer first) (l'.journal.answer second))

namespace Reached

variable {settings : Settings} {l l' : Leader} {r : Replica}

theorem sound (h : Reached settings l r) : l.Sound := by
  induction h with
  | start token clockSeed => exact Leader.sound_start token
  | commit clockSeed fresh batch _ ih => exact ih.commit batch
  | poll first second _ later ih => exact ih.later later

/-- The world of a follower is that of the lists which it has applied. -/
theorem replay (h : Reached settings l r) :
    r.follower.world = World.replay r.follower.rules r.lots := by
  induction h with
  | start token clockSeed => rfl
  | commit clockSeed fresh batch _ ih => exact ih
  | @poll l l' r first second _ later ih =>
    cases r.pollCase (l.journal.answer first) (l'.journal.answer second) with
    | failed outcome result cause =>
      rw [result]
      exact ih
    | caughtUp news answer known outcome requests result =>
      rw [result, World.replay_append, ← ih]
    | reloaded news everything answer second unknown outcome requests result =>
      rw [result]
      rfl

end Reached

/-! ## The invariant -/

/-- A follower with the token of the journal has applied what the journal has up to its version. One
with another token has a token from before. -/
structure Tracks (l : Leader) (r : Replica) : Prop where
  untouched : r.follower.token = none → r.follower.version = 0 ∧ r.lots = []
  seen : ∀ token, r.follower.token = some token → token ∈ l.tokens
  current : r.follower.token = some l.journal.token →
    r.follower.version ≤ l.journal.version ∧
      r.lots.flatten = l.journal.upTo r.follower.version

namespace Tracks

variable {settings : Settings} {l l' : Leader} {r : Replica}

theorem start (token : RefreshToken) (rules : Rules) :
    Tracks (.start token) (.start rules) where
  untouched _ := ⟨rfl, rfl⟩
  seen _ h := by cases h
  current h := by cases h

theorem commit {clockSeed : UInt64} {fresh : RefreshToken} (h : Tracks l r)
    (batch : List Instruction)
    (hfresh : (l.commit settings clockSeed fresh batch).tokens.Nodup) :
    Tracks (l.commit settings clockSeed fresh batch) r where
  untouched := h.untouched
  seen token htoken := (Leader.tokens_prefix_commit batch).subset (h.seen token htoken)
  current htoken := by
    by_cases hne : batch = []
    · rw [hne, Leader.commit_nil] at htoken ⊢
      exact h.current htoken
    · dsimp only [Leader.commit] at htoken ⊢
      cases hwipe : Journal.fromLastWipe? batch with
      | none =>
        have hjournal : l.journal.append fresh batch =
            ⟨l.journal.token, l.journal.version + 1,
              l.journal.entries ++ [(l.journal.version + 1, batch)]⟩ :=
          Journal.append_of_none hne hwipe
        rw [hjournal] at htoken
        obtain ⟨hversion, hlots⟩ := h.current htoken
        rw [Journal.upTo_append hne hwipe hversion, hjournal]
        exact ⟨Nat.le_succ_of_le hversion, hlots⟩
      | some kept =>
        -- the new token cannot be that of a follower, which has been seen before
        rw [Journal.append_of_some hwipe] at htoken
        rw [Leader.commit_tokens_of_some hwipe] at hfresh
        have hold := h.seen fresh htoken
        have hnew := (List.nodup_append.mp hfresh).2.2 fresh hold fresh List.mem_cons_self
        exact absurd rfl hnew

theorem later (h : Tracks l r) (later : l.Later settings l') (hfresh : l'.tokens.Nodup) :
    Tracks l' r := by
  induction later with
  | now => exact h
  | @commit l' clockSeed fresh batch _ ih =>
    exact (ih (hfresh.sublist (Leader.tokens_prefix_commit batch).sublist)).commit batch hfresh

/-- A follower that has just applied what the journal gives out. -/
theorem of_delivered {follower : Follower} {lots : List (List Instruction)} (hl : l.Sound)
    (token : follower.token = some l.journal.token) (version : follower.version = l.journal.version)
    (delivered : lots.flatten = (l.journal.since 0).instructions) :
    Tracks l ⟨follower, lots⟩ where
  untouched h := by
    rw [token] at h
    cases h
  seen t ht := by
    obtain rfl : l.journal.token = t := Option.some.inj (token.symm.trans ht)
    exact hl.token
  current _ := by
    refine ⟨Nat.le_of_eq version, ?_⟩
    dsimp only
    rw [delivered, version, hl.keeps.ordered.upTo_version]

/-- What a follower has applied, and what it has missed, is all that the journal has. -/
theorem flatten_append_since (h : Tracks l r) (hl : l.Sound)
    (known : ∀ token, r.follower.token = some token → token = l.journal.token) :
    (r.lots ++ [(l.journal.since r.follower.version).instructions]).flatten =
      (l.journal.since 0).instructions := by
  rw [List.flatten_append, List.flatten_singleton]
  cases htoken : r.follower.token with
  | none =>
    obtain ⟨hversion, hlots⟩ := h.untouched htoken
    rw [hversion, hlots, List.flatten_nil, List.nil_append]
  | some token =>
    rw [known token htoken] at htoken
    rw [(h.current htoken).2, hl.keeps.ordered.upTo_append_since]

end Tracks

/-! ## Delivery -/

namespace Reached

variable {settings : Settings} {l l' : Leader} {r : Replica}

theorem tokens_nodup (later : l.Later settings l') (hfresh : l'.tokens.Nodup) : l.tokens.Nodup := by
  induction later with
  | now => exact hfresh
  | commit clockSeed fresh batch _ ih =>
    exact ih (hfresh.sublist (Leader.tokens_prefix_commit batch).sublist)

theorem tracks (h : Reached settings l r) (hfresh : l.tokens.Nodup) : Tracks l r := by
  induction h with
  | start token clockSeed => exact Tracks.start token _
  | commit clockSeed fresh batch _ ih =>
    have hbefore := hfresh.sublist (Leader.tokens_prefix_commit batch).sublist
    exact (ih hbefore).commit batch hfresh
  | @poll l l' r first second h later ih =>
    have hbefore := ih (tokens_nodup later hfresh)
    cases r.pollCase (l.journal.answer first) (l'.journal.answer second) with
    | failed outcome result cause =>
      rw [result]
      exact hbefore.later later hfresh
    | caughtUp news answer known outcome requests result =>
      obtain ⟨-, rfl⟩ := Journal.answer_eq_some answer
      rw [result]
      have hall := hbefore.flatten_append_since h.sound known
      exact (Tracks.of_delivered h.sound rfl rfl hall).later later hfresh
    | reloaded news everything answer second unknown outcome requests result =>
      obtain ⟨-, rfl⟩ := Journal.answer_eq_some second
      rw [result]
      exact Tracks.of_delivered (h.sound.later later) rfl rfl (List.flatten_singleton)

end Reached

/-- Every instruction is delivered once and in order. After a poll that does not fail, the lists
that the follower has applied since it last began with the empty world make up all that the journal
had when it was last asked; the follower's world is what they lead to. A poll fails exactly if one
of its requests does, and then nothing is changed. -/
theorem poll_delivers_once {settings : Settings} {l l' : Leader} {r : Replica}
    (h : Reached settings l r) (later : l.Later settings l') (hfresh : l'.tokens.Nodup)
    (first second : Bool) :
    let source := l.journal.answer first
    let again := l'.journal.answer second
    let p := r.follower.poll source again
    let asked := if p.requests.length = 2 then l'.journal else l.journal
    (p.outcome = .failed ↔ first = false ∨ p.requests.length = 2 ∧ second = false) ∧
      (p.outcome = .failed → p.follower = r.follower) ∧
      (p.outcome ≠ .failed →
        (r.poll source again).lots.flatten = (asked.since 0).instructions ∧
          p.follower.world = World.replay p.follower.rules (r.poll source again).lots) := by
  intro source again p asked
  have hreplay := (h.poll first second later).replay
  cases r.pollCase source again with
  | failed outcome result cause =>
    have hsame : p.follower = r.follower := congrArg Replica.follower result
    refine ⟨iff_of_true outcome ?_, fun _ => hsame, fun hne => absurd outcome hne⟩
    rcases cause with hfirst | ⟨hrequests, hsecond⟩
    · exact .inl (Journal.answer_eq_none.mp hfirst)
    · exact .inr ⟨hrequests, Journal.answer_eq_none.mp hsecond⟩
  | caughtUp news answer known outcome requests result =>
    obtain ⟨hreached, rfl⟩ := Journal.answer_eq_some answer
    have hrequests : p.requests.length ≠ 2 := by
      have hone : p.requests.length = 1 := requests
      omega
    have hasked : asked = l.journal := if_neg hrequests
    refine ⟨iff_of_false outcome ?_, fun hfailed => absurd hfailed outcome, fun _ => ⟨?_, hreplay⟩⟩
    · rintro (hfirst | ⟨htwo, -⟩)
      · rw [hreached] at hfirst
        cases hfirst
      · exact hrequests htwo
    · rw [result, hasked]
      have htracks := h.tracks (Reached.tokens_nodup later hfresh)
      exact htracks.flatten_append_since h.sound known
  | reloaded news everything answer hsecond unknown outcome requests result =>
    have hreached := (Journal.answer_eq_some answer).1
    obtain ⟨hreached', rfl⟩ := Journal.answer_eq_some hsecond
    have hasked : asked = l'.journal := if_pos requests
    refine ⟨iff_of_false outcome ?_, fun hfailed => absurd hfailed outcome, fun _ => ⟨?_, hreplay⟩⟩
    · rintro (hfirst | ⟨-, hnone⟩)
      · rw [hreached] at hfirst
        cases hfirst
      · rw [hreached'] at hnone
        cases hnone
    · rw [result, hasked]
      exact List.flatten_singleton

/-- A wipe before a poll and one more batch between its two requests: the follower begins again,
with that batch. -/
theorem poll_delivers_once_across_wipe :
    ∃ (l l' : Leader) (r : Replica), Reached {} l r ∧ l.Later {} l' ∧ l'.tokens.Nodup ∧
      r.lots = [[.board 1 1]] ∧
      (r.poll (l.journal.answer true) (l'.journal.answer true)).lots.flatten =
        [.reset, .board 2 2, .grid .hex 10] := by
  have hstart : Reached {} (.start ⟨0⟩) (.start (.ofSettings {} 0)) := .start ⟨0⟩ 0
  have hpolled := (hstart.commit 0 ⟨1⟩ [.board 1 1]).poll true true .now
  have hwiped := hpolled.commit 0 ⟨2⟩ [.effect "smoke" ⟨0, 0⟩ none none, .reset, .board 2 2]
  generalize hleader : Leader.commit {} 0 ⟨2⟩ _ _ = l at hwiped
  have hlater : l.Later {} (l.commit {} 0 ⟨3⟩ [.grid .hex 10]) := .commit 0 ⟨3⟩ _ .now
  have hfresh : (l.commit {} 0 ⟨3⟩ [.grid .hex 10]).tokens.Nodup := by
    rw [← hleader]
    decide
  obtain ⟨-, -, hdelivered⟩ := poll_delivers_once hwiped hlater hfresh true true
  refine ⟨l, _, _, hwiped, hlater, hfresh, by decide +kernel, ?_⟩
  subst hleader
  exact (hdelivered (by decide +kernel)).1.trans (by decide +kernel)

end Tabletop
