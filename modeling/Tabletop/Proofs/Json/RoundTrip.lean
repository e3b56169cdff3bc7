import Tabletop.Proofs.Json.Tokens

/-!
# JSON values survive as texts

* `Writable`: the values that a text can hold. Whole numbers have 64 bits, every fraction is read as
  it was written, and lists and records are not too deep in one another.
* `tokens` are the tokens of a value. `lexesAs_prettyChars` cuts the text of a value into them, and
  `acceptAll_tokens` puts the value together again.
* `read?_pretty` is both, one after the other.
-/

namespace Tabletop.Json

/-! ## Values and their tokens -/

/-- The fraction is read as it was written. The reader is not exact for all of them. -/
def Exact (x : Float) : Prop := read? (pretty (.float x)) = some (.float x)

example : ¬ Exact 1e-29 := by
  intro h
  have hread : (read? (pretty (.float 1e-29))).bind asFloat? ≠ some 1e-29 := by decide +kernel
  rw [h] at hread
  exact hread rfl

/-- A value that a text can hold, with so many lists and records in one another. -/
inductive Writable : (room : Nat) → Json → Prop where
  | null {room : Nat} : Writable room .null
  | bool {room : Nat} (b : Bool) : Writable room (.bool b)
  | int {room : Nat} {n : Int} (low : -0x8000000000000000 ≤ n) (high : n ≤ Decimal.word64) :
      Writable room (.int n)
  | float {room : Nat} {x : Float} (exact : Exact x) : Writable room (.float x)
  | text {room : Nat} (s : String) : Writable room (.text s)
  | list {room : Nat} {items : List Json} (within : ∀ v ∈ items, Writable room v) :
      Writable (room + 1) (.list items)
  | record {room : Nat} {fields : List (String × Json)}
      (within : ∀ f ∈ fields, Writable room f.2) : Writable (room + 1) (.record fields)

mutual

/-- The tokens that are written for a value. -/
def tokens : Json → List Token
  | .list items => .openList :: itemTokens items
  | .record fields => .openRecord :: fieldTokens fields
  | .text s => [.text (some s)]
  | v => [.scalar (some v)]

def itemTokens : List Json → List Token
  | [] => [.closeList]
  | [v] => tokens v ++ [.closeList]
  | v :: rest => tokens v ++ .comma :: itemTokens rest

def fieldTokens : List (String × Json) → List Token
  | [] => [.closeRecord]
  | [(k, v)] => .text (some k) :: .colon :: (tokens v ++ [.closeRecord])
  | (k, v) :: rest => .text (some k) :: .colon :: (tokens v ++ .comma :: fieldTokens rest)

end

/-! ## From the text to its tokens -/

/-- The text is cut into the tokens, whatever comes after it. -/
def LexesAs (text : List Char) (ts : List Token) : Prop :=
  ∀ rest, EndsWord rest → lex .between (text ++ rest) = (lex .between rest).map (ts ++ ·)

theorem lexesAs_word {w : List Char} (hw : IsWord w) {t : Token} (ht : wordToken? w = some t) :
    LexesAs w [t] := by
  intro rest hrest
  rw [lex_word hw hrest, ht]
  rfl

theorem lex_prettyItems {items : List Json} {depth : Nat}
    (h : ∀ v ∈ items, LexesAs (prettyChars (depth + 1) v) (tokens v)) (rest : List Char) :
    lex .between (prettyItems depth items ++ rest) =
      (lex .between rest).map (itemTokens items ++ ·) := by
  induction items with
  | nil => exact lex_mark rfl rest
  | cons v items ih =>
    obtain ⟨hv, hitems⟩ := List.forall_mem_cons.mp h
    cases items with
    | nil =>
      rw [prettyItems, itemTokens, List.append_assoc, List.append_assoc,
        hv _ (endsWord_newLine depth _), lex_newLine, List.singleton_append,
        lex_mark (t := .closeList) rfl, Option.map_map]
      simp [Function.comp_def]
    | cons v' items =>
      rw [prettyItems, itemTokens, List.append_assoc, List.cons_append, List.append_assoc,
        hv _ (endsWord_cons (by decide) _), lex_mark (t := .comma) rfl, lex_newLine, ih hitems,
        Option.map_map, Option.map_map]
      · simp [Function.comp_def]
      · simp
      · simp

theorem lex_key (k : String) (rest : List Char) :
    lex .between (quote k ++ ':' :: ' ' :: rest) =
      (lex .between rest).map (.text (some k) :: .colon :: ·) := by
  rw [lex_quote, lex_mark (t := .colon) rfl, lex_space, Option.map_map]
  rfl

theorem lex_prettyFields {fields : List (String × Json)} {depth : Nat}
    (h : ∀ f ∈ fields, LexesAs (prettyChars (depth + 1) f.2) (tokens f.2)) (rest : List Char) :
    lex .between (prettyFields depth fields ++ rest) =
      (lex .between rest).map (fieldTokens fields ++ ·) := by
  induction fields with
  | nil => exact lex_mark rfl rest
  | cons f fields ih =>
    obtain ⟨k, v⟩ := f
    obtain ⟨hv, hfields⟩ := List.forall_mem_cons.mp h
    cases fields with
    | nil =>
      rw [prettyFields, fieldTokens, List.append_assoc, List.cons_append, List.cons_append,
        lex_key, List.append_assoc, List.append_assoc, hv _ (endsWord_newLine depth _), lex_newLine,
        List.singleton_append, lex_mark (t := .closeRecord) rfl, Option.map_map, Option.map_map]
      simp [Function.comp_def]
    | cons f' fields =>
      rw [prettyFields, fieldTokens, List.append_assoc, List.cons_append, List.cons_append,
        lex_key, List.append_assoc, List.cons_append, List.append_assoc,
        hv _ (endsWord_cons (by decide) _), lex_mark (t := .comma) rfl, lex_newLine, ih hfields,
        Option.map_map, Option.map_map, Option.map_map]
      · simp [Function.comp_def]
      · simp
      · simp

theorem lexesAs_list {items : List Json} {depth : Nat}
    (h : ∀ v ∈ items, LexesAs (prettyChars (depth + 1) v) (tokens v)) :
    LexesAs (prettyChars depth (.list items)) (tokens (.list items)) := by
  intro rest _
  cases items with
  | nil =>
    rw [prettyChars, tokens, itemTokens, List.cons_append, lex_mark (t := .openList) rfl,
      List.singleton_append, lex_mark (t := .closeList) rfl, Option.map_map]
    rfl
  | cons v items =>
    rw [prettyChars, tokens, List.cons_append, List.append_assoc, lex_mark (t := .openList) rfl,
      lex_newLine, lex_prettyItems h, Option.map_map]
    · rfl
    · simp

theorem lexesAs_record {fields : List (String × Json)} {depth : Nat}
    (h : ∀ f ∈ fields, LexesAs (prettyChars (depth + 1) f.2) (tokens f.2)) :
    LexesAs (prettyChars depth (.record fields)) (tokens (.record fields)) := by
  intro rest _
  cases fields with
  | nil =>
    rw [prettyChars, tokens, fieldTokens, List.cons_append, lex_mark (t := .openRecord) rfl,
      List.singleton_append, lex_mark (t := .closeRecord) rfl, Option.map_map]
    rfl
  | cons f fields =>
    rw [prettyChars, tokens, List.cons_append, List.append_assoc, lex_mark (t := .openRecord) rfl,
      lex_newLine, lex_prettyFields h, Option.map_map]
    · rfl
    · simp

theorem wordToken?_eq_scalar {w : List Char} {t : Token} (h : wordToken? w = some t) :
    ∃ v, t = .scalar v := by
  unfold wordToken? at h
  split at h
  · exact ⟨_, (Option.some.inj h).symm⟩
  split at h
  · exact ⟨_, (Option.some.inj h).symm⟩
  split at h
  · exact ⟨_, (Option.some.inj h).symm⟩
  · obtain ⟨n, -, rfl⟩ := Option.map_eq_some_iff.mp h
    exact ⟨_, rfl⟩

theorem Exact.wordToken?_eq {x : Float} (h : Exact x) :
    wordToken? (scalarText (.float x)) = some (.scalar (some (.float x))) := by
  have htext : pretty (.float x) = String.ofList (scalarText (.float x)) := by
    rw [pretty, prettyChars]
    all_goals simp
  -- The whole text is one word. What it is read as can only come from the token of that word.
  have hlex := lex_word (isWord_scalarText_float x) endsWord_nil
  rw [List.append_nil] at hlex
  rw [Exact, read?, readWhere?, htext, String.toList_ofList, hlex] at h
  cases hword : wordToken? (scalarText (.float x)) with
  | none =>
    rw [hword] at h
    cases h
  | some t =>
    obtain ⟨v, rfl⟩ := wordToken?_eq_scalar hword
    rw [hword] at h
    have hv : v = some (.float x) := h
    rw [hv]

theorem Writable.lexesAs {room : Nat} {v : Json} (h : Writable room v) (depth : Nat) :
    LexesAs (prettyChars depth v) (tokens v) := by
  induction h generalizing depth with
  | null => exact lexesAs_word (w := scalarText .null) (by decide) rfl
  | bool b =>
    cases b with
    | true => exact lexesAs_word (w := scalarText (.bool true)) (by decide) rfl
    | false => exact lexesAs_word (w := scalarText (.bool false)) (by decide) rfl
  | int low high => exact lexesAs_word (isWord_scalarText_int _) (wordToken?_int low high)
  | float h => exact lexesAs_word (isWord_scalarText_float _) h.wordToken?_eq
  | text s => exact fun rest _ => lex_quote s rest
  | list _ ih => exact lexesAs_list fun v hv => ih v hv (depth + 1)
  | record _ ih => exact lexesAs_record fun f hf => ih f hf (depth + 1)

/-! ## From the tokens to the value -/

/-- Every field matters. -/
abbrev allFields : String → Bool := fun _ => true

theorem acceptAll_cons (r : Reading) (t : Token) (rest : List Token) :
    acceptAll allFields r (t :: rest) =
      (accept allFields r t).bind fun r' => acceptAll allFields r' rest := rfl

theorem deliver_field (v : Json) (k : String) (done : List (String × Json)) (stack : List Frame) :
    deliver allFields (some v) (.field (some done) (some k) :: stack) =
      some ⟨.separator, .fields (some ((k, v) :: done)) :: stack⟩ := by
  simp [deliver, isPassedOver, withField]

theorem nothingYet_eq {α : Type} {stack : List Frame} (h : stack.length ≤ deepest) :
    nothingYet (α := α) stack = some [] := by
  rw [nothingYet, List.drop_eq_nil_of_le h]
  rfl

/-- The tokens put the value where one is expected, whatever comes after them. -/
def Delivers (room : Nat) (ts : List Token) (v : Json) : Prop :=
  ∀ stack rest, stack.length + room ≤ deepest + 1 →
    acceptAll allFields ⟨.value, stack⟩ (ts ++ rest) =
      (deliver allFields (some v) stack).bind fun r => acceptAll allFields r rest

/-- The first item and the first key are accepted like any other one. -/
theorem acceptAll_firstItem (v : Json) (items : List Json) (stack : List Frame)
    (rest : List Token) :
    acceptAll allFields ⟨.firstItem, stack⟩ (itemTokens (v :: items) ++ rest) =
      acceptAll allFields ⟨.value, stack⟩ (itemTokens (v :: items) ++ rest) := by
  have hfirst : ∀ ts, acceptAll allFields ⟨.firstItem, stack⟩ (tokens v ++ ts) =
      acceptAll allFields ⟨.value, stack⟩ (tokens v ++ ts) := by
    cases v <;> exact fun _ => rfl
  cases items with
  | nil =>
    rw [itemTokens, List.append_assoc]
    exact hfirst _
  | cons v' items =>
    rw [itemTokens, List.append_assoc]
    · exact hfirst _
    · simp

theorem acceptAll_firstKey (f : String × Json) (fields : List (String × Json))
    (stack : List Frame) (rest : List Token) :
    acceptAll allFields ⟨.firstKey, stack⟩ (fieldTokens (f :: fields) ++ rest) =
      acceptAll allFields ⟨.key, stack⟩ (fieldTokens (f :: fields) ++ rest) := by
  cases fields with
  | nil => rfl
  | cons f' fields => rfl

/-- The induction is on the items after `v`; those before are in the frame, last first. -/
theorem acceptAll_itemTokens {room : Nat} {v : Json} {items : List Json}
    (h : ∀ v' ∈ v :: items, Delivers room (tokens v') v') (done : List Json) {stack : List Frame}
    (hroom : stack.length + (room + 1) ≤ deepest + 1) (rest : List Token) :
    acceptAll allFields ⟨.value, .items (some done) :: stack⟩ (itemTokens (v :: items) ++ rest) =
      (deliver allFields (some (.list (done.reverse ++ v :: items))) stack).bind fun r =>
        acceptAll allFields r rest := by
  have hlength : (Frame.items (some done) :: stack).length + room ≤ deepest + 1 := by
    rw [List.length_cons]
    omega
  induction items generalizing v done with
  | nil =>
    rw [itemTokens, List.append_assoc, h v List.mem_cons_self _ _ hlength, List.singleton_append]
    have hclose : accept allFields ⟨.separator, .items (some (v :: done)) :: stack⟩ .closeList =
        deliver allFields (some (.list (v :: done).reverse)) stack := rfl
    rw [← List.reverse_cons, ← hclose]
    rfl
  | cons v' items ih =>
    obtain ⟨hv, hitems⟩ := List.forall_mem_cons.mp h
    rw [itemTokens, List.append_assoc, hv _ _ hlength, List.append_cons, ← List.reverse_cons]
    · exact ih hitems (v :: done) hlength
    · simp

/-- The induction is on the fields after `k`; those before are in the frame, last first. -/
theorem acceptAll_fieldTokens {room : Nat} {k : String} {v : Json} {fields : List (String × Json)}
    (h : ∀ f ∈ (k, v) :: fields, Delivers room (tokens f.2) f.2) (done : List (String × Json))
    {stack : List Frame} (hroom : stack.length + (room + 1) ≤ deepest + 1) (rest : List Token) :
    acceptAll allFields ⟨.key, .fields (some done) :: stack⟩
        (fieldTokens ((k, v) :: fields) ++ rest) =
      (deliver allFields (some (.record (done.reverse ++ (k, v) :: fields))) stack).bind fun r =>
        acceptAll allFields r rest := by
  have hlength : (Frame.field (some done) (some k) :: stack).length + room ≤ deepest + 1 := by
    rw [List.length_cons]
    omega
  have hkey : ∀ ts, acceptAll allFields ⟨.key, .fields (some done) :: stack⟩
      (.text (some k) :: .colon :: ts) =
        acceptAll allFields ⟨.value, .field (some done) (some k) :: stack⟩ ts := fun _ => rfl
  induction fields generalizing k v done with
  | nil =>
    rw [fieldTokens, List.cons_append, List.cons_append, hkey, List.append_assoc,
      h (k, v) List.mem_cons_self _ _ hlength, deliver_field, List.singleton_append]
    have hclose : accept allFields ⟨.separator, .fields (some ((k, v) :: done)) :: stack⟩
        .closeRecord = deliver allFields (some (.record ((k, v) :: done).reverse)) stack := rfl
    rw [← List.reverse_cons, ← hclose]
    rfl
  | cons f fields ih =>
    obtain ⟨hv, hfields⟩ := List.forall_mem_cons.mp h
    rw [fieldTokens, List.cons_append, List.cons_append, hkey, List.append_assoc,
      hv _ _ hlength, deliver_field, List.append_cons, ← List.reverse_cons]
    · exact ih hfields ((k, v) :: done) hlength fun _ => rfl
    · simp

theorem Writable.delivers {room : Nat} {v : Json} (h : Writable room v) :
    Delivers room (tokens v) v := by
  induction h with
  | null => exact fun _ _ _ => rfl
  | bool b => exact fun _ _ _ => rfl
  | int low high => exact fun _ _ _ => rfl
  | float h => exact fun _ _ _ => rfl
  | text s => exact fun _ _ _ => rfl
  | @list room items _ ih =>
    intro stack rest hroom
    have hopen : accept allFields ⟨.value, stack⟩ .openList =
        some ⟨.firstItem, .items (nothingYet stack) :: stack⟩ := rfl
    rw [tokens, List.cons_append, acceptAll_cons, hopen, nothingYet_eq (by omega)]
    cases items with
    | nil => rfl
    | cons v items =>
      rw [Option.bind_some, acceptAll_firstItem]
      exact acceptAll_itemTokens ih [] hroom rest
  | @record room fields _ ih =>
    intro stack rest hroom
    have hopen : accept allFields ⟨.value, stack⟩ .openRecord =
        some ⟨.firstKey, .fields (nothingYet stack) :: stack⟩ := rfl
    rw [tokens, List.cons_append, acceptAll_cons, hopen, nothingYet_eq (by omega)]
    cases fields with
    | nil => rfl
    | cons f fields =>
      rw [Option.bind_some, acceptAll_firstKey]
      exact acceptAll_fieldTokens ih [] hroom rest

/-! ## Both -/

/-- A value that a text can hold is read from its text. -/
theorem read?_pretty {v : Json} (h : Writable (deepest + 1) v) : read? v.pretty = some v := by
  have htokens : lex .between (prettyChars 0 v) = some (tokens v) := by
    have hlex := h.lexesAs 0 [] endsWord_nil
    rw [List.append_nil, lex, Option.map_some, List.append_nil] at hlex
    exact hlex
  have hvalue := h.delivers [] [] (by simp)
  rw [List.append_nil] at hvalue
  rw [read?, readWhere?, pretty, String.toList_ofList, htokens]
  simp only [Option.bind_eq_bind, Option.bind_some]
  rw [hvalue]
  rfl

end Tabletop.Json
