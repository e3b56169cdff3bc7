import Tabletop.Journal
import Tabletop.Proofs.World

/-!
# What a journal gives to those who follow it

The journal keeps what came after the last wipe, and gives out what came after a version.

* `Journal.fromLastWipe?_cases`: what is kept of a batch begins with a wipe, and nothing after that
  wipes again.
* `Journal.Ordered`: versions ascend and none is above that of the journal. What a journal gives out
  for a version then goes on where the entries up to that version end (`upTo_append_since`).
* `Journal.Keeps`: what it gives out for a version leads from there to the newest world.
-/

namespace Tabletop

namespace Journal

/-! ## Wipes -/

/-- A batch without a wipe is kept as a whole; of any other batch the last wipe is kept and what
comes after it. -/
theorem fromLastWipe?_cases (batch : List Instruction) :
    (fromLastWipe? batch = none ∧ ∀ i ∈ batch, i.wipesWorld = false) ∨
      ∃ before wipe rest, fromLastWipe? batch = some (wipe :: rest) ∧
        batch = before ++ wipe :: rest ∧ wipe.wipesWorld = true ∧
        ∀ i ∈ rest, i.wipesWorld = false := by
  induction batch with
  | nil => exact .inl ⟨rfl, by simp⟩
  | cons i batch ih =>
    rw [fromLastWipe?]
    rcases ih with ⟨hnone, hall⟩ | ⟨before, wipe, rest, hsome, hbatch, hwipe, hrest⟩
    · rw [hnone]
      cases hi : i.wipesWorld with
      | false =>
        refine .inl ⟨by simp, fun j hj => ?_⟩
        rcases List.mem_cons.mp hj with rfl | hj
        · exact hi
        · exact hall j hj
      | true => exact .inr ⟨[], i, batch, by simp, rfl, hi, hall⟩
    · rw [hsome]
      exact .inr ⟨i :: before, wipe, rest, rfl, by rw [hbatch, List.cons_append], hwipe, hrest⟩

/-! ## Versions -/

/-- Versions ascend, and none is above that of the journal. -/
structure Ordered (j : Journal) : Prop where
  ascending : j.entries.Pairwise fun a b => a.1 < b.1
  positive : ∀ e ∈ j.entries, 0 < e.1
  bounded : ∀ e ∈ j.entries, e.1 ≤ j.version

theorem ordered_start (token : RefreshToken) : (start token).Ordered :=
  ⟨.nil, by simp [start], by simp [start]⟩

/-- A batch that wipes nothing goes to the end. -/
theorem append_of_none {j : Journal} {fresh : RefreshToken} {batch : List Instruction}
    (hne : batch ≠ []) (h : fromLastWipe? batch = none) :
    j.append fresh batch = ⟨j.token, j.version + 1, j.entries ++ [(j.version + 1, batch)]⟩ := by
  rw [append, if_neg (by simpa using hne), h]

/-- A batch that wipes is the only one afterwards. -/
theorem append_of_some {j : Journal} {fresh : RefreshToken} {batch kept : List Instruction}
    (h : fromLastWipe? batch = some kept) :
    j.append fresh batch = ⟨fresh, j.version + 1, [(j.version + 1, kept)]⟩ := by
  have hne : batch ≠ [] := by
    rintro rfl
    cases h
  rw [append, if_neg (by simpa using hne), h]

theorem append_nil (j : Journal) (fresh : RefreshToken) : j.append fresh [] = j := rfl

theorem Ordered.append {j : Journal} (h : j.Ordered) (fresh : RefreshToken)
    (batch : List Instruction) : (j.append fresh batch).Ordered := by
  by_cases hne : batch = []
  · rw [hne, append_nil]
    exact h
  · cases hwipe : fromLastWipe? batch with
    | some kept =>
      rw [append_of_some hwipe]
      exact ⟨by simp, by simp, by simp⟩
    | none =>
      rw [append_of_none hne hwipe]
      refine ⟨?_, fun e he => ?_, fun e he => ?_⟩
      · rw [List.pairwise_append]
        refine ⟨h.ascending, by simp, fun a ha b hb => ?_⟩
        rw [List.mem_singleton.mp hb]
        exact Nat.lt_succ_of_le (h.bounded a ha)
      · rcases List.mem_append.mp he with he | he
        · exact h.positive e he
        · rw [List.mem_singleton.mp he]
          exact Nat.succ_pos _
      · rcases List.mem_append.mp he with he | he
        · exact Nat.le_succ_of_le (h.bounded e he)
        · rw [List.mem_singleton.mp he]

/-! ## What is given out -/

/-- The instructions of the batches up to a version. -/
def upTo (j : Journal) (version : Nat) : List Instruction :=
  (j.entries.filter fun e => e.1 ≤ version).flatMap (·.2)

theorem filter_split {entries : List (Nat × List Instruction)}
    (h : entries.Pairwise fun a b => a.1 < b.1) (version : Nat) :
    (entries.filter fun e => e.1 ≤ version) ++ (entries.filter fun e => version < e.1) =
      entries := by
  induction entries with
  | nil => rfl
  | cons e rest ih =>
    obtain ⟨hlater, hrest⟩ := List.pairwise_cons.mp h
    by_cases he : e.1 ≤ version
    · rw [List.filter_cons_of_pos (by simpa using he), List.filter_cons_of_neg (by simpa using he),
        List.cons_append, ih hrest]
    · have hnone : rest.filter (fun e => e.1 ≤ version) = [] := by
        refine List.filter_eq_nil_iff.mpr fun e' he' => ?_
        have hlt := hlater e' he'
        simp only [decide_eq_true_eq]
        omega
      have hall : rest.filter (fun e => version < e.1) = rest := by
        refine List.filter_eq_self.mpr fun e' he' => ?_
        have hlt := hlater e' he'
        simp only [decide_eq_true_eq]
        omega
      rw [List.filter_cons_of_neg (by simpa using he),
        List.filter_cons_of_pos (by simpa using Nat.lt_of_not_le he), hnone, hall, List.nil_append]

theorem Ordered.since_zero {j : Journal} (h : j.Ordered) :
    (j.since 0).instructions = j.entries.flatMap (·.2) := by
  have hall : j.entries.filter (fun e => 0 < e.1) = j.entries :=
    List.filter_eq_self.mpr fun e he => decide_eq_true (h.positive e he)
  exact congrArg (List.flatMap (·.2)) hall

/-- What comes after a version goes on where the entries up to that version end. -/
theorem Ordered.upTo_append_since {j : Journal} (h : j.Ordered) (version : Nat) :
    j.upTo version ++ (j.since version).instructions = (j.since 0).instructions := by
  rw [h.since_zero, upTo, since, ← List.flatMap_append, filter_split h.ascending version]

theorem Ordered.upTo_version {j : Journal} (h : j.Ordered) :
    j.upTo j.version = (j.since 0).instructions := by
  have hall : j.entries.filter (fun e => e.1 ≤ j.version) = j.entries :=
    List.filter_eq_self.mpr fun e he => decide_eq_true (h.bounded e he)
  rw [h.since_zero, upTo, hall]

/-- There is nothing after the newest version. -/
theorem Ordered.since_version {j : Journal} (h : j.Ordered) :
    (j.since j.version).instructions = [] := by
  have hnone : j.entries.filter (fun e => j.version < e.1) = [] :=
    List.filter_eq_nil_iff.mpr fun e he => by simpa using h.bounded e he
  exact congrArg (List.flatMap (·.2)) hnone

theorem filter_newest {version newest : Nat} (h : version ≤ newest) (batch : List Instruction) :
    [(newest + 1, batch)].filter (fun e => version < e.1) = [(newest + 1, batch)] :=
  List.filter_eq_self.mpr fun e he => by
    rw [List.mem_singleton.mp he]
    exact decide_eq_true (Nat.lt_succ_of_le h)

/-- A batch that wipes nothing is added to what is given out. -/
theorem since_append {j : Journal} {fresh : RefreshToken} {batch : List Instruction}
    {version : Nat} (hne : batch ≠ []) (h : fromLastWipe? batch = none)
    (hversion : version ≤ j.version) :
    ((j.append fresh batch).since version).instructions =
      (j.since version).instructions ++ batch := by
  rw [append_of_none hne h]
  simp only [since, List.filter_append, List.flatMap_append]
  rw [filter_newest hversion]
  simp

/-- Of a batch that wipes only the end is given out, and nothing from before. -/
theorem since_append_wipe {j : Journal} {fresh : RefreshToken} {batch kept : List Instruction}
    {version : Nat} (h : fromLastWipe? batch = some kept) (hversion : version ≤ j.version) :
    ((j.append fresh batch).since version).instructions = kept := by
  rw [append_of_some h]
  simp only [since]
  rw [filter_newest hversion]
  simp

/-- A new batch changes nothing up to an old version. -/
theorem upTo_append {j : Journal} {fresh : RefreshToken} {batch : List Instruction}
    {version : Nat} (hne : batch ≠ []) (h : fromLastWipe? batch = none)
    (hversion : version ≤ j.version) : (j.append fresh batch).upTo version = j.upTo version := by
  have hnew : [(j.version + 1, batch)].filter (fun e => e.1 ≤ version) = [] :=
    List.filter_eq_nil_iff.mpr fun e he => by
      rw [List.mem_singleton.mp he]
      simp only [decide_eq_true_eq]
      omega
  rw [append_of_none hne h]
  simp only [upTo, List.filter_append, List.flatMap_append]
  rw [hnew]
  simp

/-! ## What it leads to -/

/-- The journal of batches. What it gives out for a version leads from the world of that version to
the newest one, although not all that came before is kept. -/
structure Keeps (j : Journal) (batches : List (List Instruction)) : Prop where
  ordered : j.Ordered
  version : j.version = batches.length
  known : ∀ version, ∀ i ∈ (j.since version).instructions, i ∈ batches.flatten
  leads : ∀ rules version, version ≤ j.version →
    (World.run rules (World.run rules .empty (batches.take version).flatten).1
        (j.since version).instructions).1 =
      (World.run rules .empty batches.flatten).1

theorem keeps_start (token : RefreshToken) : (start token).Keeps [] where
  ordered := ordered_start token
  version := rfl
  known _ i hi := by cases hi
  leads _ version _ := by
    rw [List.take_nil]
    rfl

theorem version_append {j : Journal} (fresh : RefreshToken) {batch : List Instruction}
    (hne : batch ≠ []) : (j.append fresh batch).version = j.version + 1 := by
  cases hwipe : fromLastWipe? batch with
  | none => rw [append_of_none hne hwipe]
  | some kept => rw [append_of_some hwipe]

/-- Nothing is given out that is neither old nor new. -/
theorem mem_since_append {j : Journal} {fresh : RefreshToken} {batch : List Instruction}
    {version : Nat} {i : Instruction} (hne : batch ≠ [])
    (hi : i ∈ ((j.append fresh batch).since version).instructions) :
    i ∈ (j.since version).instructions ∨ i ∈ batch := by
  obtain ⟨e, he, hmem⟩ := List.mem_flatMap.mp hi
  obtain ⟨he, hversion⟩ := List.mem_filter.mp he
  rcases fromLastWipe?_cases batch with
    ⟨hnone, -⟩ | ⟨before, wipe, rest, hsome, hbatch, -, -⟩
  · rw [append_of_none hne hnone] at he
    rcases List.mem_append.mp he with he | he
    · exact .inl (List.mem_flatMap.mpr ⟨e, List.mem_filter.mpr ⟨he, hversion⟩, hmem⟩)
    · rw [List.mem_singleton.mp he] at hmem
      exact .inr hmem
  · rw [append_of_some hsome] at he
    rw [List.mem_singleton.mp he] at hmem
    rw [hbatch]
    exact .inr (List.mem_append_right _ hmem)

theorem Keeps.append {j : Journal} {batches : List (List Instruction)} (h : j.Keeps batches)
    (fresh : RefreshToken) {batch : List Instruction} (hne : batch ≠ []) :
    (j.append fresh batch).Keeps (batches ++ [batch]) := by
  have hversion := version_append (j := j) fresh hne
  refine ⟨h.ordered.append fresh batch, ?_, fun version i hi => ?_, fun rules version hle => ?_⟩
  · rw [hversion, h.version, List.length_append]
    rfl
  · rw [List.flatten_append, List.flatten_singleton]
    rcases mem_since_append hne hi with hi | hi
    · exact List.mem_append_left _ (h.known version i hi)
    · exact List.mem_append_right _ hi
  · rw [List.flatten_append, List.flatten_singleton, World.run_append]
    by_cases hold : version ≤ j.version
    · rw [List.take_append_of_le_length (h.version ▸ hold)]
      rcases fromLastWipe?_cases batch with
        ⟨hnone, -⟩ | ⟨before, wipe, rest, hsome, hbatch, hwipe, -⟩
      · rw [since_append hne hnone hold, World.run_append, h.leads rules version hold]
      · rw [since_append_wipe hsome hold, hbatch, World.run_append]
        exact World.run_of_wipe rules _ _ rest hwipe
    · obtain rfl : version = (j.append fresh batch).version := by omega
      have hall : (batches ++ [batch]).take (j.append fresh batch).version =
          batches ++ [batch] := by
        rw [hversion, h.version]
        exact List.take_of_length_le (by simp)
      rw [(h.ordered.append fresh batch).since_version, hall, List.flatten_append,
        List.flatten_singleton, World.run_append]
      rfl

end Journal

end Tabletop
