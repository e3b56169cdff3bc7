import Tabletop.Dict

/-!
# Dictionaries by their look-up

What is under each key is all there is to a dictionary.

* `Dict.ext_get?`: dictionaries with the same look-up are equal.
* `Dict.get?_insertAll`: after many insertions the new entries count over the old ones.
* `Dict.get?_ofList_eq_getLast?`: the last of the entries with a key is the one that is found.
* `Dict.get?_insertAll_const`: the same value for a list of keys. `Dict.get?_insertAll_of_mem`:
  entries with different keys.
* `Dict.ofList_entries`: a dictionary is put together from its entries.
-/

namespace Tabletop.Dict

variable {κ ν : Type} [Ord κ] [Std.TransOrd κ] [Std.LawfulEqOrd κ]

/-! ## Look-up -/

omit [Std.TransOrd κ] [Std.LawfulEqOrd κ] in
theorem get?_empty (k : κ) : (empty : Dict κ ν).get? k = none := rfl

omit [Std.TransOrd κ] [Std.LawfulEqOrd κ] in
/-- A key below all others is not there. -/
theorem getIn_eq_none {k : κ} {l : List (κ × ν)} (h : ∀ e ∈ l, compare k e.1 = .lt) :
    getIn k l = none := by
  induction l with
  | nil => rfl
  | cons e rest ih =>
    have hlt := h e List.mem_cons_self
    rw [getIn, if_neg (by simp [hlt]), ih fun e' he' => h e' (List.mem_cons_of_mem _ he')]

omit [Std.TransOrd κ] in
theorem getIn_head (e : κ × ν) (rest : List (κ × ν)) : getIn e.1 (e :: rest) = some e.2 := by
  rw [getIn, if_pos Std.ReflOrd.compare_self]

omit [Std.TransOrd κ] in
theorem getIn_of_ne {k : κ} {e : κ × ν} (h : k ≠ e.1) (rest : List (κ × ν)) :
    getIn k (e :: rest) = getIn k rest := by
  rw [getIn, if_neg]
  exact fun heq => h (Std.LawfulEqOrd.eq_of_compare heq)

omit [Std.LawfulEqOrd κ] in
/-- A key below the first one is not there either. -/
theorem getIn_eq_none_of_lt {k : κ} {e : κ × ν} {rest : List (κ × ν)}
    (h : (e :: rest).Pairwise fun a b => compare a.1 b.1 = .lt) (hk : compare k e.1 = .lt) :
    getIn k (e :: rest) = none := by
  refine getIn_eq_none fun e' he' => ?_
  rcases List.mem_cons.mp he' with rfl | he'
  · exact hk
  · exact Std.TransCmp.lt_trans hk ((List.pairwise_cons.mp h).1 e' he')

theorem eq_of_getIn_eq {a b : List (κ × ν)} (ha : a.Pairwise fun a b => compare a.1 b.1 = .lt)
    (hb : b.Pairwise fun a b => compare a.1 b.1 = .lt) (h : ∀ k, getIn k a = getIn k b) :
    a = b := by
  induction a generalizing b with
  | nil =>
    cases b with
    | nil => rfl
    | cons e' rest' =>
      have hhead := h e'.1
      rw [getIn_head] at hhead
      cases hhead
  | cons e rest ih =>
    cases b with
    | nil =>
      have hhead := h e.1
      rw [getIn_head] at hhead
      cases hhead
    | cons e' rest' =>
      have hhead := h e.1
      have hhead' := h e'.1
      rw [getIn_head] at hhead hhead'
      cases hcompare : compare e.1 e'.1 with
      | lt =>
        rw [getIn_eq_none_of_lt hb hcompare] at hhead
        cases hhead
      | gt =>
        rw [getIn_eq_none_of_lt ha (Std.OrientedCmp.lt_of_gt hcompare)] at hhead'
        cases hhead'
      | eq =>
        have hkey := Std.LawfulEqOrd.eq_of_compare hcompare
        rw [hkey, getIn_head] at hhead
        obtain rfl : e = e' := Prod.ext hkey (Option.some.inj hhead)
        obtain ⟨hbelow, hrest⟩ := List.pairwise_cons.mp ha
        obtain ⟨hbelow', hrest'⟩ := List.pairwise_cons.mp hb
        congr 1
        refine ih hrest hrest' fun k => ?_
        by_cases hk : k = e.1
        · rw [hk, getIn_eq_none hbelow, getIn_eq_none hbelow']
        · have hboth := h k
          rw [getIn_of_ne hk, getIn_of_ne hk] at hboth
          exact hboth

/-- Dictionaries with the same look-up are equal. -/
theorem ext_get? {a b : Dict κ ν} (h : ∀ k, a.get? k = b.get? k) : a = b :=
  ext (eq_of_getIn_eq a.ascending b.ascending h)

theorem isEmpty_iff {d : Dict κ ν} : d.isEmpty = true ↔ ∀ k, d.get? k = none := by
  constructor
  · intro h k
    rw [get?, List.isEmpty_iff.mp h]
    rfl
  · intro h
    have hempty : d = empty := ext_get? h
    rw [hempty]
    rfl

/-! ## Many insertions -/

omit [Std.LawfulEqOrd κ] in
theorem insertAll_nil (d : Dict κ ν) : d.insertAll [] = d := by
  rw [insertAll_eq_foldl]
  rfl

omit [Std.LawfulEqOrd κ] in
theorem insertAll_cons (d : Dict κ ν) (e : κ × ν) (entries : List (κ × ν)) :
    d.insertAll (e :: entries) = (d.insert e.1 e.2).insertAll entries := by
  rw [insertAll_eq_foldl, insertAll_eq_foldl]
  rfl

/-- The new entries count over the old ones. -/
theorem get?_insertAll (d : Dict κ ν) (entries : List (κ × ν)) (k : κ) :
    (d.insertAll entries).get? k = ((ofList entries).get? k).or (d.get? k) := by
  induction entries generalizing d with
  | nil =>
    rw [insertAll_nil, ofList, insertAll_nil, get?_empty]
    rfl
  | cons e entries ih =>
    rw [insertAll_cons, ofList, insertAll_cons, ih, ih (empty.insert e.1 e.2), get?_insert,
      get?_insert, get?_empty]
    split
    · rw [Option.or_assoc]
      rfl
    · rw [Option.or_none]

omit [Std.LawfulEqOrd κ] in
theorem mem_of_mem_insertAll {d : Dict κ ν} {entries : List (κ × ν)} {e : κ × ν}
    (h : e ∈ (d.insertAll entries).entries) : e ∈ d.entries ∨ e ∈ entries := by
  induction entries generalizing d with
  | nil =>
    rw [insertAll_nil] at h
    exact .inl h
  | cons e' entries ih =>
    rw [insertAll_cons] at h
    rcases ih h with h | h
    · rcases mem_insertIn h with rfl | h
      · exact .inr List.mem_cons_self
      · exact .inl h
    · exact .inr (List.mem_cons_of_mem e' h)

omit [Std.LawfulEqOrd κ] in
theorem mem_of_mem_ofList {entries : List (κ × ν)} {e : κ × ν}
    (h : e ∈ (ofList entries).entries) : e ∈ entries :=
  (mem_of_mem_insertAll h).resolve_left List.not_mem_nil

/-- With ascending keys, no entry takes the place of another. -/
theorem get?_ofList {l : List (κ × ν)} (h : l.Pairwise fun a b => compare a.1 b.1 = .lt) (k : κ) :
    (ofList l).get? k = getIn k l := by
  induction l with
  | nil => rfl
  | cons e l ih =>
    obtain ⟨hbelow, hrest⟩ := List.pairwise_cons.mp h
    rw [ofList, insertAll_cons, get?_insertAll, ih hrest, get?_insert, get?_empty]
    by_cases hk : k = e.1
    · rw [hk, getIn_eq_none hbelow, getIn_head, if_pos Std.ReflOrd.compare_self]
      rfl
    · have hne : ¬ compare k e.1 = .eq := fun heq => hk (Std.LawfulEqOrd.eq_of_compare heq)
      rw [if_neg hne, getIn_of_ne hk, Option.or_none]

/-- A dictionary is put together from its own entries. -/
theorem ofList_entries (d : Dict κ ν) : ofList d.entries = d :=
  ext_get? fun k => get?_ofList d.ascending k

theorem get?_ofList_const [DecidableEq κ] (keys : List κ) (v : ν) (k : κ) :
    (ofList (keys.map (·, v))).get? k = if k ∈ keys then some v else none := by
  induction keys with
  | nil => rfl
  | cons k' keys ih =>
    rw [List.map_cons, ofList, insertAll_cons, get?_insertAll, ih, get?_insert, get?_empty]
    by_cases hk : k = k'
    · rw [if_pos (c := k ∈ k' :: keys) (hk ▸ List.mem_cons_self), hk,
        if_pos Std.ReflOrd.compare_self]
      split
      · rfl
      · rfl
    · have hne : ¬ compare k k' = .eq := fun h => hk (Std.LawfulEqOrd.eq_of_compare h)
      rw [if_neg hne, Option.or_none]
      simp only [List.mem_cons, hk, false_or]

/-- The last of the entries with a key counts. -/
theorem get?_ofList_eq_getLast? [DecidableEq κ] (entries : List (κ × ν)) (k : κ) :
    (ofList entries).get? k = (entries.filter (·.1 == k)).getLast?.map (·.2) := by
  induction entries with
  | nil => rfl
  | cons e entries ih =>
    rw [ofList, insertAll_cons, get?_insertAll, ih, get?_insert, get?_empty, List.filter_cons]
    by_cases hk : e.1 = k
    · rw [if_pos (beq_iff_eq.mpr hk), if_pos (hk ▸ Std.ReflOrd.compare_self), List.getLast?_cons]
      cases (entries.filter (·.1 == k)).getLast? with
      | none => rfl
      | some e' => rfl
    · have hne : ¬ compare k e.1 = .eq := fun h => hk (Std.LawfulEqOrd.eq_of_compare h).symm
      rw [if_neg hne, Option.or_none, if_neg (by simpa using hk)]

/-- One value for many keys. -/
theorem get?_insertAll_const [DecidableEq κ] (d : Dict κ ν) (keys : List κ) (v : ν) (k : κ) :
    (d.insertAll (keys.map (·, v))).get? k = if k ∈ keys then some v else d.get? k := by
  rw [get?_insertAll, get?_ofList_const]
  split
  · rfl
  · rfl

/-- What is under other keys stays. -/
theorem get?_insertAll_of_not_mem (d : Dict κ ν) {entries : List (κ × ν)} {k : κ}
    (h : k ∉ entries.map (·.1)) : (d.insertAll entries).get? k = d.get? k := by
  induction entries generalizing d with
  | nil => rw [insertAll_nil]
  | cons e entries ih =>
    rw [List.map_cons, List.mem_cons, not_or] at h
    obtain ⟨hne, hrest⟩ := h
    have hcompare : ¬ compare k e.1 = .eq := fun heq => hne (Std.LawfulEqOrd.eq_of_compare heq)
    rw [insertAll_cons, ih _ hrest, get?_insert, if_neg hcompare]

/-- Entries with different keys are all there afterwards. -/
theorem get?_insertAll_of_mem (d : Dict κ ν) {entries : List (κ × ν)}
    (hkeys : (entries.map (·.1)).Nodup) {e : κ × ν} (h : e ∈ entries) :
    (d.insertAll entries).get? e.1 = some e.2 := by
  induction entries generalizing d with
  | nil => cases h
  | cons e' entries ih =>
    obtain ⟨hnew, hkeys⟩ := List.nodup_cons.mp hkeys
    rw [insertAll_cons]
    rcases List.mem_cons.mp h with rfl | h
    · rw [get?_insertAll_of_not_mem _ hnew, get?_insert, if_pos Std.ReflOrd.compare_self]
    · exact ih _ hkeys h

end Tabletop.Dict
