/-!
# Dictionaries in the order of their keys

A `Dict` is a list of entries with ascending keys, so two dictionaries with the same entries are
equal.

* `insert` puts a value at a key, in place of the one that is there.
* `get?_insert`: afterwards the key has that value and every other key has what it had.
* `insertAll` inserts many entries, and `insertAll_eq_foldl` says that it inserts them one after
  another. It takes entries with ascending keys in one pass.
-/

namespace Tabletop

structure Dict (κ ν : Type) [Ord κ] where
  entries : List (κ × ν)
  ascending : entries.Pairwise fun a b => compare a.1 b.1 = .lt

namespace Dict

variable {κ ν : Type} [Ord κ]

theorem ext {a b : Dict κ ν} (h : a.entries = b.entries) : a = b := by
  cases a; cases b; cases h; rfl

instance [DecidableEq κ] [DecidableEq ν] : DecidableEq (Dict κ ν) := fun a b =>
  decidable_of_iff (a.entries = b.entries) ⟨ext, congrArg _⟩

def empty : Dict κ ν := ⟨[], .nil⟩

instance : EmptyCollection (Dict κ ν) := ⟨empty⟩
instance : Inhabited (Dict κ ν) := ⟨empty⟩

def isEmpty (d : Dict κ ν) : Bool := d.entries.isEmpty

def size (d : Dict κ ν) : Nat := d.entries.length

def keys (d : Dict κ ν) : List κ := d.entries.map (·.1)

/-! ## Look-up -/

def getIn (k : κ) : List (κ × ν) → Option ν
  | [] => none
  | (k', v) :: rest => if compare k k' = .eq then some v else getIn k rest

def get? (d : Dict κ ν) (k : κ) : Option ν := getIn k d.entries

/-! ## Insertion -/

def insertIn (k : κ) (v : ν) : List (κ × ν) → List (κ × ν)
  | [] => [(k, v)]
  | (k', v') :: rest =>
    match compare k k' with
    | .lt => (k, v) :: (k', v') :: rest
    | .eq => (k, v) :: rest
    | .gt => (k', v') :: insertIn k v rest

theorem mem_insertIn {k : κ} {v : ν} {l : List (κ × ν)} {e : κ × ν} (h : e ∈ insertIn k v l) :
    e = (k, v) ∨ e ∈ l := by
  induction l with
  | nil => simpa [insertIn] using h
  | cons a rest ih =>
    rw [insertIn] at h
    split at h
    · simpa using h
    · rcases List.mem_cons.1 h with h | h
      · exact .inl h
      · exact .inr (List.mem_cons_of_mem _ h)
    · rcases List.mem_cons.1 h with h | h
      · exact .inr (h ▸ List.mem_cons_self)
      · rcases ih h with h | h
        · exact .inl h
        · exact .inr (List.mem_cons_of_mem _ h)

variable [Std.TransOrd κ]

theorem insertIn_ascending (k : κ) (v : ν) {l : List (κ × ν)}
    (h : l.Pairwise fun a b => compare a.1 b.1 = .lt) :
    (insertIn k v l).Pairwise fun a b => compare a.1 b.1 = .lt := by
  induction l with
  | nil => simp [insertIn]
  | cons a rest ih =>
    obtain ⟨ha, hrest⟩ := List.pairwise_cons.1 h
    rw [insertIn]
    split
    · next hlt =>
      refine List.pairwise_cons.2 ⟨fun e he => ?_, h⟩
      rcases List.mem_cons.1 he with rfl | he
      · exact hlt
      · exact Std.TransCmp.lt_trans hlt (ha e he)
    · next heq =>
      exact List.pairwise_cons.2 ⟨fun e he => Std.TransCmp.lt_of_eq_of_lt heq (ha e he), hrest⟩
    · next hgt =>
      refine List.pairwise_cons.2 ⟨fun e he => ?_, ih hrest⟩
      rcases mem_insertIn he with rfl | he
      · exact Std.OrientedCmp.lt_of_gt hgt
      · exact ha e he

def insert (d : Dict κ ν) (k : κ) (v : ν) : Dict κ ν :=
  ⟨insertIn k v d.entries, insertIn_ascending k v d.ascending⟩

theorem getIn_insertIn [Std.LawfulEqOrd κ] (k k' : κ) (v : ν) (l : List (κ × ν)) :
    getIn k' (insertIn k v l) = if compare k' k = .eq then some v else getIn k' l := by
  induction l with
  | nil => rfl
  | cons a rest ih =>
    rw [insertIn]
    split
    · rfl
    · next heq =>
      obtain rfl := Std.LawfulEqOrd.eq_of_compare heq
      simp only [getIn]
      split <;> rfl
    · next hgt =>
      simp only [getIn, ih]
      split
      · next heq =>
        obtain rfl := Std.LawfulEqOrd.eq_of_compare heq
        rw [if_neg]
        intro h
        rw [Std.OrientedCmp.eq_symm h] at hgt
        cases hgt
      · rfl

theorem get?_insert [Std.LawfulEqOrd κ] (d : Dict κ ν) (k k' : κ) (v : ν) :
    (d.insert k v).get? k' = if compare k' k = .eq then some v else d.get? k' :=
  getIn_insertIn k k' v d.entries

/-! ## Many insertions -/

/-- Ascending entries, put into ascending entries. Where both have a key, the new entry counts. -/
def overlay (old : List (κ × ν)) : List (κ × ν) → List (κ × ν)
  | [] => old
  | e :: new =>
    old.takeWhile (fun o => compare o.1 e.1 == .lt) ++
      e :: overlay (old.dropWhile fun o => compare o.1 e.1 != .gt) new

/-- Entries, cut before every key that is not above the one before it. -/
def runs : List (κ × ν) → List (List (κ × ν))
  | [] => []
  | e :: rest =>
    match runs rest with
    | (e' :: run) :: others =>
      if compare e.1 e'.1 = .lt then (e :: e' :: run) :: others else [e] :: (e' :: run) :: others
    | others => [e] :: others

/-- Entries that are inserted one after another. -/
def insertEach (old new : List (κ × ν)) : List (κ × ν) :=
  new.foldl (fun l e => insertIn e.1 e.2 l) old

omit [Std.TransOrd κ] in
theorem flatten_runs (l : List (κ × ν)) : (runs l).flatten = l := by
  induction l with
  | nil => rfl
  | cons e rest ih =>
    rw [runs]
    split
    · next h =>
      rw [h] at ih
      split <;> simp [← ih]
    · simp [ih]

theorem runs_ascending {l r : List (κ × ν)} (h : r ∈ runs l) :
    r.Pairwise fun a b => compare a.1 b.1 = .lt := by
  induction l generalizing r with
  | nil => simp [runs] at h
  | cons e rest ih =>
    rw [runs] at h
    split at h
    · next e' run others hr =>
      split at h
      · next hlt =>
        rcases List.mem_cons.1 h with rfl | h
        · have hrun := ih (hr ▸ List.mem_cons_self)
          refine List.pairwise_cons.2 ⟨fun a ha => ?_, hrun⟩
          rcases List.mem_cons.1 ha with rfl | ha
          · exact hlt
          · exact Std.TransCmp.lt_trans hlt ((List.pairwise_cons.1 hrun).1 a ha)
        · exact ih (hr ▸ List.mem_cons_of_mem _ h)
      · rcases List.mem_cons.1 h with rfl | h
        · simp
        · exact ih (hr ▸ h)
    · rcases List.mem_cons.1 h with rfl | h
      · simp
      · exact ih h

/-- An entry goes between those with lower keys and those with higher keys. -/
theorem insertIn_eq (e : κ × ν) {l : List (κ × ν)}
    (h : l.Pairwise fun a b => compare a.1 b.1 = .lt) :
    insertIn e.1 e.2 l = l.takeWhile (fun o => compare o.1 e.1 == .lt) ++
      e :: l.dropWhile fun o => compare o.1 e.1 != .gt := by
  induction l with
  | nil => rfl
  | cons a rest ih =>
    obtain ⟨ha, hrest⟩ := List.pairwise_cons.1 h
    rw [insertIn]
    split
    · next hlt =>
      have hgt := Std.OrientedCmp.gt_of_lt hlt
      simp [hgt]
    · next heq =>
      have heq := Std.OrientedCmp.eq_symm heq
      have hhead : ∀ b ∈ rest, compare b.1 e.1 = .gt := fun b hb =>
        Std.OrientedCmp.gt_of_lt
          (Std.TransCmp.lt_of_eq_of_lt (Std.OrientedCmp.eq_symm heq) (ha b hb))
      cases rest with
      | nil => simp [heq]
      | cons b rest => simp [heq, hhead b]
    · next hgt =>
      have hlt := Std.OrientedCmp.lt_of_gt hgt
      simp [hlt, ih hrest]

omit [Std.TransOrd κ] in
theorem overlay_append {front new : List (κ × ν)} (back : List (κ × ν))
    (h : ∀ a ∈ front, ∀ e ∈ new, compare a.1 e.1 = .lt) :
    overlay (front ++ back) new = front ++ overlay back new := by
  cases new with
  | nil => rfl
  | cons e new =>
    have h : ∀ a ∈ front, compare a.1 e.1 = .lt := fun a ha => h a ha e List.mem_cons_self
    rw [overlay, overlay, List.takeWhile_append_of_pos (by simpa using h),
      List.dropWhile_append_of_pos (by intro a ha; simp [h a ha]), List.append_assoc]

theorem insertEach_ascending {old : List (κ × ν)} (new : List (κ × ν))
    (h : old.Pairwise fun a b => compare a.1 b.1 = .lt) :
    (insertEach old new).Pairwise fun a b => compare a.1 b.1 = .lt := by
  induction new generalizing old with
  | nil => exact h
  | cons e new ih => exact ih (insertIn_ascending e.1 e.2 h)

theorem overlay_eq {old new : List (κ × ν)}
    (hold : old.Pairwise fun a b => compare a.1 b.1 = .lt)
    (hnew : new.Pairwise fun a b => compare a.1 b.1 = .lt) :
    overlay old new = insertEach old new := by
  induction new generalizing old with
  | nil => rfl
  | cons e new ih =>
    obtain ⟨he, hnew⟩ := List.pairwise_cons.1 hnew
    have step : insertEach old (e :: new) = insertEach (insertIn e.1 e.2 old) new := rfl
    rw [step, ← ih (insertIn_ascending e.1 e.2 hold) hnew, insertIn_eq e hold,
      List.append_cons, overlay_append, overlay, List.append_assoc, List.singleton_append]
    intro a ha b hb
    rcases List.mem_append.1 ha with ha | ha
    · have hlt : compare a.1 e.1 = .lt := by
        simpa using List.all_eq_true.1 List.all_takeWhile a ha
      exact Std.TransCmp.lt_trans hlt (he b hb)
    · obtain rfl := List.mem_singleton.1 ha
      exact he b hb

theorem foldl_overlay_eq {old : List (κ × ν)} {rs : List (List (κ × ν))}
    (hold : old.Pairwise fun a b => compare a.1 b.1 = .lt)
    (hrs : ∀ r ∈ rs, r.Pairwise fun a b => compare a.1 b.1 = .lt) :
    rs.foldl overlay old = insertEach old rs.flatten := by
  induction rs generalizing old with
  | nil => rfl
  | cons r rs ih =>
    rw [List.foldl_cons, overlay_eq hold (hrs r List.mem_cons_self),
      ih (insertEach_ascending r hold) fun r' hr' => hrs r' (List.mem_cons_of_mem _ hr')]
    simp [insertEach]

theorem foldl_overlay_runs (d : Dict κ ν) (entries : List (κ × ν)) :
    (runs entries).foldl overlay d.entries = insertEach d.entries entries := by
  rw [foldl_overlay_eq d.ascending fun r hr => runs_ascending hr, flatten_runs]

def insertAll (d : Dict κ ν) (entries : List (κ × ν)) : Dict κ ν :=
  ⟨(runs entries).foldl overlay d.entries,
    foldl_overlay_runs d entries ▸ insertEach_ascending entries d.ascending⟩

theorem insertAll_eq_foldl (d : Dict κ ν) (entries : List (κ × ν)) :
    d.insertAll entries = entries.foldl (fun d e => d.insert e.1 e.2) d := by
  refine ext ((foldl_overlay_runs d entries).trans ?_)
  induction entries generalizing d with
  | nil => rfl
  | cons e entries ih => exact ih (d.insert e.1 e.2)

/-- The later of two entries with one key counts. -/
def ofList (entries : List (κ × ν)) : Dict κ ν := empty.insertAll entries

end Dict

end Tabletop
