import Tabletop.Proofs.Forms
import Tabletop.Proofs.Passages

/-!
# Lists of cells in a script

The items of a list are read one by one, whatever is in them, and decoded after that. An item that
is no reference of a cell is left out and reported. The directive around it stays.

* `Listed`: the texts that hold some items in order, with a comma or blanks between them.
* `Listed.separated?`: those items are read from each of them.
* `Directive.cellsOf_eq`: which cells are decoded and which items are left out.
-/

namespace Tabletop

theorem Route.exists_ofCells? {cells : List Cell} (h : cells ≠ []) :
    ∃ route, Route.ofCells? cells = some route ∧ route.cells = cells := by
  cases cells with
  | nil => exact absurd rfl h
  | cons cell cells =>
    cases cells with
    | nil => exact ⟨_, rfl, rfl⟩
    | cons next cells => exact ⟨_, rfl, rfl⟩

namespace Script

open Text

/-! ## Lists -/

/-- A text that can stand in a list. -/
structure IsItem (item : String) : Prop where
  nonempty : item.toList ≠ []
  whole : ∀ c ∈ item.toList, isBlank c = false ∧ c ≠ ','

/-- Blanks with at most one comma among them. -/
structure IsSeparator (separator : String) : Prop where
  nonempty : separator.toList ≠ []
  marks : ∀ c ∈ separator.toList, isGap c = true ∨ c = ','
  single : separator.toList.count ',' ≤ 1

instance (item : String) : Decidable (IsItem item) :=
  decidable_of_iff
    (item.toList ≠ [] ∧ (item.toList.all fun c => !isBlank c && c != ',') = true)
    ⟨fun ⟨h₁, h₂⟩ => ⟨h₁, by simpa using h₂⟩, fun ⟨h₁, h₂⟩ => ⟨h₁, by simpa using h₂⟩⟩

instance (separator : String) : Decidable (IsSeparator separator) :=
  decidable_of_iff
    (separator.toList ≠ [] ∧ (separator.toList.all fun c => isGap c || c == ',') = true ∧
      separator.toList.count ',' ≤ 1)
    ⟨fun ⟨h₁, h₂, h₃⟩ => ⟨h₁, by simpa using h₂, h₃⟩,
      fun ⟨h₁, h₂, h₃⟩ => ⟨h₁, by simpa using h₂, h₃⟩⟩

/-- Items in order, and a text that lists them. -/
inductive Listed : List String → String → Prop where
  | one (item : String) (h : IsItem item) : Listed [item] item
  | more (item separator : String) {list : String} {items : List String} (h : IsItem item)
      (hseparator : IsSeparator separator) (hrest : Listed items list) :
      Listed (item :: items) (item ++ separator ++ list)

theorem isItemChar_of_isBlank {c : Char} (h : isBlank c = false) (hcomma : c ≠ ',') :
    isItemChar c = true := by
  have hgap : isGap c = false := by
    by_contra hgap
    rw [isBlank_of_isGap (by simpa using hgap)] at h
    cases h
  simp [isItemChar, hgap, hcomma]

theorem IsItem.isItemChar {item : String} (h : IsItem item) :
    ∀ c ∈ item.toList, isItemChar c = true := fun c hc =>
  isItemChar_of_isBlank (h.whole c hc).1 (h.whole c hc).2

theorem IsSeparator.stops {separator : String} (h : IsSeparator separator) (cs : List Char) :
    Stops Script.isItemChar (separator.toList ++ cs) := by
  obtain ⟨c, rest, hseparator⟩ := List.exists_cons_of_ne_nil h.nonempty
  have hc := h.marks c (hseparator ▸ List.mem_cons_self)
  rw [hseparator]
  refine stops_cons ?_ _
  rcases hc with hgap | rfl
  · simp [isItemChar, hgap]
  · rfl

/-- A separator is left behind by the reader of the next item. -/
theorem IsSeparator.skip_dropComma {separator : String} (h : IsSeparator separator)
    {text : List Char} (hgap : Stops isGap text) (hcomma : text.head? ≠ some ',') :
    skip (dropComma (separator.toList ++ text)) = text := by
  by_cases hmem : ',' ∈ separator.toList
  · -- there are only blanks on both sides of the comma
    obtain ⟨before, after, hseparator, hbefore⟩ := List.eq_append_cons_of_mem hmem
    have hgaps : ∀ c ∈ before, isGap c = true := fun c hc =>
      (h.marks c (hseparator ▸ List.mem_append_left _ hc)).resolve_right fun heq =>
        hbefore (heq ▸ hc)
    have hafter : ',' ∉ after := by
      have hsingle := h.single
      rw [hseparator, List.count_append, List.count_cons_self] at hsingle
      exact List.count_eq_zero.mp (by omega)
    have hgaps' : ∀ c ∈ after, isGap c = true := fun c hc =>
      (h.marks c (hseparator ▸ List.mem_append_right _ (List.mem_cons_of_mem _ hc))).resolve_right
        fun heq => hafter (heq ▸ hc)
    have hskip : skip (separator.toList ++ text) = ',' :: (after ++ text) := by
      rw [hseparator, List.append_assoc, skip_append hgaps]
      exact skip_of_stops (stops_cons rfl _)
    rw [dropComma, mark?_of_skip hskip, Option.getD_some, skip_append hgaps', skip_of_stops hgap]
  · have hgaps : ∀ c ∈ separator.toList, isGap c = true := fun c hc =>
      (h.marks c hc).resolve_right fun heq => hmem (heq ▸ hc)
    have hskip : skip (separator.toList ++ text) = text := by
      rw [skip_append hgaps, skip_of_stops hgap]
    rw [dropComma, mark?_eq_none (by rwa [hskip]), Option.getD_none, hskip]

namespace Listed

variable {items : List String} {list : String}

/-- A list begins with its first item and ends with its last one. -/
theorem head? (h : Listed items list) :
    ∃ c rest, list.toList = c :: rest ∧ isBlank c = false ∧ c ≠ ',' := by
  cases h with
  | one item h =>
    obtain ⟨c, rest, hitem⟩ := List.exists_cons_of_ne_nil h.nonempty
    exact ⟨c, rest, hitem, h.whole c (hitem ▸ List.mem_cons_self)⟩
  | @more item separator after _ h hseparator hrest =>
    obtain ⟨c, rest, hitem⟩ := List.exists_cons_of_ne_nil h.nonempty
    refine ⟨c, rest ++ (separator.toList ++ after.toList), ?_,
      h.whole c (hitem ▸ List.mem_cons_self)⟩
    rw [String.toList_append, String.toList_append, hitem, List.append_assoc, List.cons_append]

theorem getLast? (h : Listed items list) :
    ∃ c, list.toList.getLast? = some c ∧ isBlank c = false := by
  induction h with
  | one item h =>
    refine ⟨_, List.getLast?_eq_some_getLast h.nonempty, (h.whole _ (List.getLast_mem _)).1⟩
  | more item separator h hseparator hrest ih =>
    obtain ⟨c, hlast, hblank⟩ := ih
    refine ⟨c, ?_, hblank⟩
    rw [String.toList_append, List.getLast?_append, hlast, Option.some_or]

theorem not_mem (h : Listed items list) : '\n' ∉ list.toList := by
  induction h with
  | one item h => exact fun hmem => absurd (h.whole _ hmem).1 (by decide)
  | more item separator h hseparator hrest ih =>
    rw [String.toList_append, String.toList_append, List.mem_append, List.mem_append]
    rintro ((hmem | hmem) | hmem)
    · exact absurd (h.whole _ hmem).1 (by decide)
    · exact absurd (hseparator.marks _ hmem) (by decide)
    · exact ih hmem

theorem stops_isGap (h : Listed items list) : Stops isGap list.toList := by
  obtain ⟨c, rest, hlist, hblank, hcomma⟩ := h.head?
  have hitem := isItemChar_of_isBlank hblank hcomma
  rw [hlist]
  refine stops_cons ?_ rest
  rw [isItemChar, Bool.and_eq_true, Bool.not_eq_true'] at hitem
  exact hitem.1

theorem head?_ne (h : Listed items list) : list.toList.head? ≠ some ',' := by
  obtain ⟨c, rest, hlist, -, hcomma⟩ := h.head?
  rw [hlist]
  exact fun heq => hcomma (Option.some.inj heq)

/-- The induction is on the list. Behind its first item stand the others, each of them behind a
separator. -/
theorem repeats (h : Listed items list) {cs : List Char} (hcs : skip cs = list.toList) :
    ∃ item others rest, items = item :: others ∧ item? cs = some (item.toList, rest) ∧
      rest.length < cs.length ∧
      Repeats (fun cs => item? (dropComma cs)) rest (others.map String.toList) [] := by
  induction h generalizing cs with
  | one item h =>
    have hlength := (skip_suffix cs).length_le
    have hread : item? cs = some (item.toList, []) := by
      rw [item?, hcs]
      exact run?_eq_some_iff.mpr ⟨h.nonempty, h.isItemChar, stops_nil _, (List.append_nil _).symm⟩
    have hpos := List.length_pos_iff.mpr h.nonempty
    refine ⟨item, [], [], rfl, hread, ?_, .done rfl⟩
    rw [hcs] at hlength
    exact Nat.lt_of_lt_of_le hpos hlength
  | @more item separator list items h hseparator hrest ih =>
    have hnext := hseparator.skip_dropComma hrest.stops_isGap hrest.head?_ne
    have hlength := (skip_suffix cs).length_le
    obtain ⟨second, others, rest, rfl, hsecond, hless, hrepeats⟩ := ih hnext
    rw [String.toList_append, String.toList_append, List.append_assoc] at hcs
    have hread : item? cs = some (item.toList, separator.toList ++ list.toList) := by
      rw [item?, hcs]
      exact run?_eq_some_iff.mpr ⟨h.nonempty, h.isItemChar, hseparator.stops _, rfl⟩
    have hpos := List.length_pos_iff.mpr h.nonempty
    rw [hcs, List.length_append] at hlength
    exact ⟨item, second :: others, _, rfl, hread, by omega,
      .next hsecond (Nat.lt_of_lt_of_le hless (dropComma_suffix _).length_le) hrepeats⟩

/-- All items are read, and nothing else. -/
theorem separated? (h : Listed items list) {cs : List Char} (hcs : skip cs = list.toList) :
    separated? item? cs = some (items.map String.toList, []) := by
  obtain ⟨item, others, rest, rfl, hfirst, -, hrepeats⟩ := h.repeats hcs
  exact hrepeats.separated? hfirst

theorem separated?_after_blank (h : Listed items list) :
    Script.separated? item? (' ' :: list.toList) = some (items.map String.toList, []) :=
  h.separated? (skip_of_stops h.stops_isGap)

end Listed

/-! ## Cells -/

theorem Directive.cellsOf_eq (base : RowBase) (items : List String) :
    cellsOf base (items.map String.toList) =
      (items.filterMap (Cell.ofReference? base),
        items.filter (Cell.ofReference? base · == none)) := by
  induction items with
  | nil => rfl
  | cons item items ih =>
    rw [List.map_cons, cellsOf, ih, List.filterMap_cons, List.filter_cons, Cell.ofReference?]
    cases Cell.ofReferenceChars? base item.toList with
    | none => simp [Cell.ofReference?]
    | some cell => simp [Cell.ofReference?]

/-! ## Lines -/

section Lines

variable {code id list : String} {items : List String}

theorem Listed.read?_place (hcode : IsCode code) (hlist : Listed items list) :
    Form.read? ("PLACE " ++ code ++ " @ " ++ list).toList =
      some (.place code.toList (items.map String.toList)) := by
  have hline : ("PLACE " ++ code ++ " @ " ++ list).toList =
      "PLACE".toList ++ ' ' :: (code.toList ++ ' ' :: '@' :: ' ' :: list.toList) := by simp
  have hword : keyword? "PLACE" ("PLACE " ++ code ++ " @ " ++ list).toList =
      some (' ' :: (code.toList ++ ' ' :: '@' :: ' ' :: list.toList)) := by
    rw [hline]
    rfl
  have hread := hcode.between_gaps (a := ' ') (b := ' ') rfl rfl ('@' :: ' ' :: list.toList)
  have hmark : mark? '@' (' ' :: '@' :: ' ' :: list.toList) = some (' ' :: list.toList) := rfl
  refine Form.read?_of_front? ?_
  rw [Form.front?_of_keyword ["PLACE"] rfl hword, Form.place?, hword]
  simp only [Option.bind_eq_bind, Option.bind_some, hread, hmark,
    hlist.separated?_after_blank]
  rfl

theorem Listed.read?_roads (hlist : Listed items list) :
    Form.read? ("ROADS " ++ list).toList = some (.roads (items.map String.toList)) := by
  have hword : keyword? "ROADS" ("ROADS " ++ list).toList = some (' ' :: list.toList) := by
    rw [String.toList_append]
    rfl
  refine Form.read?_of_front? ?_
  rw [Form.front?_of_keyword ["ROADS"] rfl hword, Form.roads?, hword]
  simp only [Option.bind_eq_bind, Option.bind_some, hlist.separated?_after_blank]
  rfl

theorem Listed.read?_move (hid : IsReference id) (hlist : Listed items list) :
    Form.read? ("MOVE " ++ id ++ " TO " ++ list).toList =
      some (.move id.toList (items.map String.toList)) := by
  have hline : ("MOVE " ++ id ++ " TO " ++ list).toList =
      "MOVE".toList ++ ' ' :: (id.toList ++ ' ' :: 'T' :: 'O' :: ' ' :: list.toList) := by simp
  have hword : keyword? "MOVE" ("MOVE " ++ id ++ " TO " ++ list).toList =
      some (' ' :: (id.toList ++ ' ' :: 'T' :: 'O' :: ' ' :: list.toList)) := by
    rw [hline]
    rfl
  have hread := hid.between_gaps (a := ' ') (b := ' ') rfl rfl ('T' :: 'O' :: ' ' :: list.toList)
  have hto : keyword? "TO" (' ' :: 'T' :: 'O' :: ' ' :: list.toList) = some (' ' :: list.toList) :=
    rfl
  refine Form.read?_of_front? ?_
  rw [Form.front?_of_keyword ["MOVE"] rfl hword, Form.move?, hword]
  simp only [Option.bind_eq_bind, Option.bind_some, hread, hto,
    hlist.separated?_after_blank]
  rfl

/-! ## Scripts -/

/-- A directive in front of a list. -/
theorem Listed.standsAlone (hlist : Listed items list) (hend : list.toList.getLast? ≠ some '\\')
    {front : String} {c : Char} (hfront : front.toList.head? = some c)
    (hfirst : isBlank c = false ∧ c ≠ '#' ∧ c ≠ '/') (hwhole : '\n' ∉ front.toList) :
    StandsAlone (front ++ list).toList := by
  obtain ⟨d, hlast, hblank⟩ := hlist.getLast?
  rw [hlast] at hend
  rw [String.toList_append]
  refine .of_ends (d := d) ?_ hfirst ?_ ⟨hblank, ?_⟩ ?_
  · rw [List.head?_append, hfront, Option.some_or]
  · rw [List.getLast?_append, hlast, Option.some_or]
  · exact fun heq => hend (congrArg some heq)
  · exact fun hmem => (List.mem_append.mp hmem).elim hwhole hlist.not_mem

/-- An item that is no reference of a cell costs only itself. The others are the cells of the
directive, in order, and it is left out alone and reported. A way without any cell is no way. -/
theorem parse_listed (base : RowBase) (hlist : Listed items list)
    (hend : list.toList.getLast? ≠ some '\\') :
    let cells := items.filterMap (Cell.ofReference? base)
    let dropped := (items.filter (Cell.ofReference? base · == none)).map (Event.dropped 1)
    (∀ code, IsCode code →
      parse base ("PLACE " ++ code ++ " @ " ++ list) = ⟨[.place code cells], dropped⟩) ∧
    parse base ("ROADS " ++ list) = ⟨[.roads cells], dropped⟩ ∧
    ∀ id, IsReference id →
      (cells = [] → parse base ("MOVE " ++ id ++ " TO " ++ list) = ⟨[], dropped⟩) ∧
      (cells ≠ [] → ∃ route : Route, route.cells = cells ∧
        parse base ("MOVE " ++ id ++ " TO " ++ list) = ⟨[.move id route], dropped⟩) := by
  intro cells dropped
  refine ⟨fun code hcode => ?_, ?_, fun id hid => ?_⟩
  · have hline : StandsAlone ("PLACE " ++ code ++ " @ " ++ list).toList :=
      hlist.standsAlone hend (c := 'P') (by simp) (by decide) (by simpa using hcode.whole)
    have hread := Listed.read?_place hcode hlist
    refine hline.parse_eq _ (some (.place code cells)) ?_
    rw [Directive.read?, hread, Option.bind_some, Directive.ofForm?, Directive.cellsOf_eq,
      String.ofList_toList]
    rfl
  · have hline : StandsAlone ("ROADS " ++ list).toList :=
      hlist.standsAlone hend (c := 'R') (by simp) (by decide) (by decide)
    refine hline.parse_eq _ (some (.roads cells)) ?_
    rw [Directive.read?, hlist.read?_roads, Option.bind_some, Directive.ofForm?,
      Directive.cellsOf_eq]
    rfl
  · have hline : StandsAlone ("MOVE " ++ id ++ " TO " ++ list).toList :=
      hlist.standsAlone hend (c := 'M') (by simp) (by decide) (by simpa using hid.whole)
    have hmove : parse base ("MOVE " ++ id ++ " TO " ++ list) =
        ⟨((Route.ofCells? cells).map (.move id)).toList, dropped⟩ := by
      refine hline.parse_eq _ _ ?_
      rw [Directive.read?, Listed.read?_move hid hlist, Option.bind_some, Directive.ofForm?,
        Directive.cellsOf_eq, String.ofList_toList, Option.map_map]
      rfl
    rw [hmove]
    refine ⟨fun hnone => ?_, fun hsome => ?_⟩
    · rw [hnone]
      rfl
    · obtain ⟨route, hroute, hcells⟩ := Route.exists_ofCells? hsome
      exact ⟨route, hcells, by rw [hroute]; rfl⟩

/-- Two cells among items that look like parts of a directive. -/
theorem parse_listed_marks :
    let list := "A1,@ =x\t-> ,TO b2"
    let items := ["A1", "@", "=x", "->", "TO", "b2"]
    (Listed items list ∧ list.toList.getLast? ≠ some '\\') ∧
      parse .one ("PLACE " ++ "rock" ++ " @ " ++ list) =
        ⟨[.place "rock" [⟨0, 0⟩, ⟨1, 1⟩]],
          [.dropped 1 "@", .dropped 1 "=x", .dropped 1 "->", .dropped 1 "TO"]⟩ := by
  intro list items
  have hlist : Listed items list :=
    .more "A1" "," (by decide) (by decide) <|
    .more "@" " " (by decide) (by decide) <|
    .more "=x" "\t" (by decide) (by decide) <|
    .more "->" " ," (by decide) (by decide) <|
    .more "TO" " " (by decide) (by decide) <|
    .one "b2" (by decide)
  have hend : list.toList.getLast? ≠ some '\\' := by decide
  refine ⟨⟨hlist, hend⟩, ?_⟩
  exact (parse_listed .one hlist hend).1 "rock" (by decide)

end Lines

end Script

end Tabletop
