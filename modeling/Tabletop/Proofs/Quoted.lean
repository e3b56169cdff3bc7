import Tabletop.Proofs.Dict
import Tabletop.Proofs.Operands
import Tabletop.Proofs.Passages
import Tabletop.Proofs.Sprite

/-!
# Quoted attributes

A value between quotation marks may hold anything but its own mark and line feeds, and it is read as
it is written.

* `QuotedAttribute` is such an attribute with the blanks before it, `QuotedAttribute.text` what is
  written for it.
* `QuotedAttribute.repeats`: attributes one after the other are read one by one, whatever they hold.
* `Directive.unquoted_quoted`: one layer of quotation marks is taken off.
* `parse_quoted`: the directives with attributes give those values back, the last one for each key.
-/

namespace Tabletop.Script

open Text

/-! ## Characters of keys -/

theorem isGap_of_isKeyChar {c : Char} (h : isKeyChar c = true) : isGap c = false := by
  by_contra hgap
  rw [Bool.not_eq_false, isGap, Bool.or_eq_true, beq_iff_eq, beq_iff_eq] at hgap
  rcases hgap with rfl | rfl
  · exact absurd h (by decide)
  · exact absurd h (by decide)

/-! ## Attributes -/

/-- An attribute with its value between quotation marks. -/
structure QuotedAttribute where
  gap : String
  key : String
  quote : Char
  value : String
  gap_ne_nil : gap.toList ≠ []
  isGap_gap : gap.toList.all isGap = true
  key_ne_nil : key.toList ≠ []
  isKeyChar_key : key.toList.all isKeyChar = true
  isQuote : quote = '"' ∨ quote = '\''
  closed : quote ∉ value.toList
  whole : '\n' ∉ value.toList

namespace QuotedAttribute

/-- The value with its quotation marks. -/
def quoted (a : QuotedAttribute) : List Char := a.quote :: (a.value.toList ++ [a.quote])

def text (a : QuotedAttribute) : String :=
  a.gap ++ a.key ++ "=" ++ String.ofList a.quoted

/-- Attributes as they stand on a line, each behind its blanks. -/
def texts (attrs : List QuotedAttribute) : String := String.join (attrs.map text)

/-- What is read for attributes: their keys, and their values with the quotation marks. -/
def pairs (attrs : List QuotedAttribute) : List (List Char × List Char) :=
  attrs.map fun a => (a.key.toList, a.quoted)

theorem quote_marks (a : QuotedAttribute) :
    isBlank a.quote = false ∧ a.quote ≠ '\\' ∧ a.quote ≠ '\n' := by
  rcases a.isQuote with hquote | hquote
  · rw [hquote]
    decide
  · rw [hquote]
    decide

theorem toList_text (a : QuotedAttribute) :
    a.text.toList = a.gap.toList ++ (a.key.toList ++ '=' :: a.quoted) := by
  simp [text]

theorem toList_texts (attrs : List QuotedAttribute) :
    (texts attrs).toList = attrs.flatMap (·.text.toList) := by
  rw [texts, String.toList_join, List.flatMap_map]

end QuotedAttribute

/-- The marks are found again: the second one is the first that is behind. -/
theorem quoted?_append {quote : Char} {value : List Char} (h : quote ∉ value) (rest : List Char) :
    quoted? quote (quote :: (value ++ [quote]) ++ rest) =
      some (quote :: (value ++ [quote]), rest) := by
  have hvalue : ∀ c ∈ value, (c != quote) = true := fun c hc =>
    bne_iff_ne.mpr fun heq => h (heq ▸ hc)
  have hstops : Stops (fun c => c != quote) (quote :: rest) :=
    stops_cons (p := fun c => c != quote) (bne_self_eq_false quote) rest
  have hline : quote :: (value ++ [quote]) ++ rest = quote :: (value ++ quote :: rest) := by simp
  rw [hline, quoted?, if_pos rfl, dropWhile_append hvalue hstops, takeWhile_append hvalue hstops]

theorem quoted?_of_ne {quote c : Char} (h : c ≠ quote) (rest : List Char) :
    quoted? quote (c :: rest) = none :=
  if_neg h

namespace QuotedAttribute

theorem value?_append (a : QuotedAttribute) (rest : List Char) :
    value? (a.quoted ++ rest) = some (a.quoted, rest) := by
  have hread := quoted?_append a.closed rest
  rw [value?]
  rcases a.isQuote with hquote | hquote
  · rw [hquote] at hread
    rw [quoted, hquote, hread]
    rfl
  · rw [hquote] at hread
    rw [quoted, hquote, hread, List.cons_append, quoted?_of_ne (by decide)]
    rfl

theorem attribute?_append (a : QuotedAttribute) (rest : List Char) :
    attribute? (a.text.toList ++ rest) = some ((a.key.toList, a.quoted), rest) := by
  have hskip : skip (a.text.toList ++ rest) = a.key.toList ++ '=' :: (a.quoted ++ rest) := by
    have hgap : Stops isGap a.key.toList := fun c hc =>
      isGap_of_isKeyChar (List.all_eq_true.mp a.isKeyChar_key c (List.mem_of_head? hc))
    have hgaps := List.all_eq_true.mp a.isGap_gap
    rw [toList_text, List.append_assoc, List.append_assoc, skip_append hgaps,
      skip_of_stops (hgap.append a.key_ne_nil _), List.cons_append]
  have hkey : run? isKeyChar (a.key.toList ++ '=' :: (a.quoted ++ rest)) =
      some (a.key.toList, '=' :: (a.quoted ++ rest)) :=
    run?_eq_some_iff.mpr
      ⟨a.key_ne_nil, List.all_eq_true.mp a.isKeyChar_key, stops_cons rfl _, rfl⟩
  rw [attribute?, hskip, hkey, Option.bind_eq_bind, Option.bind_some]
  simp only [a.value?_append, Option.bind_some]
  rfl

/-- Attributes are read one after the other, up to something that is no attribute. -/
theorem repeats (attrs : List QuotedAttribute) {last : List Char} (hlast : attribute? last = none) :
    Repeats attribute? ((texts attrs).toList ++ last) (pairs attrs) last := by
  rw [toList_texts]
  induction attrs with
  | nil => exact .done hlast
  | cons a attrs ih =>
    rw [List.flatMap_cons, List.append_assoc]
    refine .next (a.attribute?_append _) ?_ ih
    have hpos := List.length_pos_iff.mpr a.gap_ne_nil
    simp only [List.length_append, toList_text]
    omega

end QuotedAttribute

/-! ## Values -/

/-- One layer of quotation marks is taken off, and nothing is trimmed inside. -/
theorem Directive.unquoted_quoted (a : QuotedAttribute) : unquoted a.quoted = a.value.toList := by
  obtain ⟨hmark, -, -⟩ := a.quote_marks
  have htrim : trim a.quoted = a.quote :: (a.value.toList ++ [a.quote]) := by
    refine trim_of_ends (fun c hc => ?_) fun c hc => ?_
    · exact Option.some.inj hc ▸ hmark
    · rw [QuotedAttribute.quoted, List.getLast?_cons, List.getLast?_concat] at hc
      exact Option.some.inj hc ▸ hmark
  rw [unquoted, htrim]
  dsimp only
  rw [if_pos ⟨a.isQuote, List.getLast?_concat⟩, List.dropLast_concat]

theorem QuotedAttribute.lowered_key (a : QuotedAttribute) :
    lowered a.key = String.ofList (foldAscii a.key.toList) := by
  have hascii : IsAscii a.key := fun c hc =>
    toNat_of_isKeyChar (List.all_eq_true.mp a.isKeyChar_key c hc)
  rw [← String.toList_inj, toList_lowered hascii, String.toList_ofList]

/-- The last of the attributes with a key in lower case counts. -/
theorem Directive.get?_attributesOf (attrs : List QuotedAttribute) (key : String) :
    (attributesOf (QuotedAttribute.pairs attrs)).get? key =
      (attrs.filter (lowered ·.key == key)).getLast?.map (·.value) := by
  rw [attributesOf, Dict.get?_ofList_eq_getLast?, QuotedAttribute.pairs, List.map_map,
    List.filter_map, List.getLast?_map, Option.map_map]
  simp only [Function.comp_def, unquoted_quoted, String.ofList_toList,
    QuotedAttribute.lowered_key]

/-! ## Lines -/

section Lines

variable {attrs : List QuotedAttribute}

namespace QuotedAttribute

theorem head?_texts (h : attrs ≠ []) :
    ∃ c rest, (texts attrs).toList = c :: rest ∧ isGap c = true := by
  obtain ⟨a, attrs, rfl⟩ := List.exists_cons_of_ne_nil h
  obtain ⟨c, rest, hgap⟩ := List.exists_cons_of_ne_nil a.gap_ne_nil
  refine ⟨c, rest ++ (a.key.toList ++ '=' :: a.quoted) ++ attrs.flatMap (·.text.toList), ?_,
    List.all_eq_true.mp a.isGap_gap c (hgap ▸ List.mem_cons_self)⟩
  rw [toList_texts, List.flatMap_cons, toList_text, hgap, List.cons_append, List.cons_append]

theorem getLast?_texts (h : attrs ≠ []) :
    ∃ a : QuotedAttribute, (texts attrs).toList.getLast? = some a.quote := by
  obtain ⟨before, a, rfl⟩ := (List.eq_nil_or_concat' attrs).resolve_left h
  refine ⟨a, ?_⟩
  have htext : a.text.toList =
      (a.gap.toList ++ a.key.toList ++ '=' :: a.quote :: a.value.toList) ++ [a.quote] := by
    rw [toList_text, quoted]
    simp
  rw [toList_texts, List.flatMap_append, List.flatMap_singleton, htext, ← List.append_assoc,
    List.getLast?_concat]

theorem not_mem_texts (attrs : List QuotedAttribute) : '\n' ∉ (texts attrs).toList := by
  rw [toList_texts, List.mem_flatMap]
  rintro ⟨a, -, hmem⟩
  obtain ⟨-, -, hmark⟩ := a.quote_marks
  rw [toList_text, quoted] at hmem
  simp only [List.mem_append, List.mem_cons, List.not_mem_nil, or_false] at hmem
  rcases hmem with hgap | hkey | hequals | hquote | hvalue | hquote
  · exact absurd (List.all_eq_true.mp a.isGap_gap _ hgap) (by decide)
  · exact absurd (List.all_eq_true.mp a.isKeyChar_key _ hkey) (by decide)
  · exact absurd hequals (by decide)
  · exact hmark hquote.symm
  · exact a.whole hvalue
  · exact hmark hquote.symm

theorem attributes_texts (attrs : List QuotedAttribute) (last : List Char)
    (hlast : attribute? last = none) :
    attributes ((texts attrs).toList ++ last) = (pairs attrs, last) :=
  (repeats attrs hlast).many

theorem endsWord_texts (h : attrs ≠ []) (rest : List Char) :
    endsWord ((texts attrs).toList ++ rest) = true := by
  obtain ⟨c, after, htexts, hgap⟩ := head?_texts h
  rw [htexts]
  rw [isGap, Bool.or_eq_true, beq_iff_eq, beq_iff_eq] at hgap
  rcases hgap with rfl | rfl
  · rfl
  · rfl

theorem read?_state (h : attrs ≠ []) :
    Form.read? ("STATE" ++ texts attrs).toList = some (.state (pairs attrs)) := by
  have hword : keyword? "STATE" ("STATE" ++ texts attrs).toList = some (texts attrs).toList := by
    rw [String.toList_append, keyword?]
    refine Option.filter_eq_some_iff.mpr ⟨rfl, ?_⟩
    rw [← List.append_nil (texts attrs).toList]
    exact endsWord_texts h []
  have hattrs := attributes_texts attrs [] rfl
  rw [List.append_nil] at hattrs
  refine Form.read?_of_front? ?_
  rw [Form.front?_of_keyword ["STATE"] rfl hword, Form.state?, hword]
  simp only [Option.bind_eq_bind, Option.bind_some, hattrs]
  rfl

theorem read?_spriteDef (h : attrs ≠ []) {code : String} (hcode : IsCode code) :
    Form.read? ("SPRITE DEF " ++ code ++ texts attrs).toList =
      some (.spriteDef code.toList (pairs attrs)) := by
  obtain ⟨c, rest, htexts, hgap⟩ := head?_texts h
  have hline : ("SPRITE DEF " ++ code ++ texts attrs).toList =
      "SPRITE".toList ++ ' ' :: 'D' :: 'E' :: 'F' :: ' ' :: (code.toList ++ c :: rest) := by
    simp [htexts]
  have hword : keyword? "SPRITE" ("SPRITE DEF " ++ code ++ texts attrs).toList =
      some (' ' :: 'D' :: 'E' :: 'F' :: ' ' :: (code.toList ++ c :: rest)) := by
    rw [hline]
    rfl
  have hdef : keyword? "DEF" (' ' :: 'D' :: 'E' :: 'F' :: ' ' :: (code.toList ++ c :: rest)) =
      some (' ' :: (code.toList ++ c :: rest)) := rfl
  have hread := hcode.between_gaps (a := ' ') rfl hgap rest
  have hattrs := attributes_texts attrs [] rfl
  rw [List.append_nil, htexts] at hattrs
  refine Form.read?_of_front? ?_
  rw [Form.front?_of_keyword ["SPRITE"] rfl hword, Form.spriteDef?, hword]
  simp only [Option.bind_eq_bind, Option.bind_some, hdef, hread, hattrs]
  rfl

theorem read?_create (h : attrs ≠ []) {gap : String} (hgap : ∀ c ∈ gap.toList, isGap c = true) :
    Form.read? ("CREATE" ++ texts attrs ++ gap ++ "@ ALL").toList =
      some (.create (pairs attrs) none) := by
  have hskip : skip (gap.toList ++ "@ ALL".toList) = "@ ALL".toList :=
    (skip_append hgap _).trans rfl
  have hnone : attribute? (gap.toList ++ "@ ALL".toList) = none := by
    rw [attribute?, hskip]
    rfl
  have hmark : mark? '@' (gap.toList ++ "@ ALL".toList) = some " ALL".toList := mark?_of_skip hskip
  have hall : keyword? "ALL" " ALL".toList = some [] := rfl
  have hword : keyword? "CREATE" ("CREATE" ++ texts attrs ++ gap ++ "@ ALL").toList =
      some ((texts attrs).toList ++ (gap.toList ++ "@ ALL".toList)) := by
    rw [String.toList_append, String.toList_append, String.toList_append, List.append_assoc,
      List.append_assoc, keyword?]
    exact Option.filter_eq_some_iff.mpr ⟨rfl, endsWord_texts h _⟩
  refine Form.read?_of_front? ?_
  rw [Form.front?_of_keyword ["CREATE"] rfl hword, Form.create?, hword]
  simp only [Option.bind_eq_bind, Option.bind_some, attributes_texts attrs _ hnone, hmark, hall]
  rfl

end QuotedAttribute

/-! ## Scripts -/

open QuotedAttribute in
/-- Quoted attributes are read back as they are written, with their keys in lower case. -/
theorem parse_quoted (base : RowBase) (h : attrs ≠ []) :
    ∃ read : Attributes,
      (∀ key, read.get? key =
        (attrs.filter (lowered ·.key == key)).getLast?.map (·.value)) ∧
      parse base ("STATE" ++ texts attrs) = ⟨[.state read], []⟩ ∧
      (∀ code, IsCode code →
        parse base ("SPRITE DEF " ++ code ++ texts attrs) = ⟨[.spriteDef code read], []⟩) ∧
      ∀ gap : String, (∀ c ∈ gap.toList, isGap c = true) →
        parse base ("CREATE" ++ texts attrs ++ gap ++ "@ ALL") = ⟨[.create read .all], []⟩ := by
  have hfeed := not_mem_texts attrs
  obtain ⟨a, hlast⟩ := getLast?_texts h
  obtain ⟨hmark, hslash, -⟩ := a.quote_marks
  refine ⟨Directive.attributesOf (pairs attrs), Directive.get?_attributesOf attrs, ?_,
    fun code hcode => ?_, fun gap hgap => ?_⟩
  · have hline : StandsAlone ("STATE" ++ texts attrs).toList := by
      refine .of_ends (c := 'S') (by simp) (by decide) ?_ ⟨hmark, hslash⟩ (by simpa using hfeed)
      rw [String.toList_append, List.getLast?_append, hlast, Option.some_or]
    refine hline.parse_eq [] (some (.state _)) ?_
    rw [Directive.read?, read?_state h]
    rfl
  · have hline : StandsAlone ("SPRITE DEF " ++ code ++ texts attrs).toList := by
      refine .of_ends (c := 'S') (by simp) (by decide) ?_ ⟨hmark, hslash⟩ ?_
      · rw [String.toList_append, List.getLast?_append, hlast, Option.some_or]
      · simpa using ⟨hcode.whole, hfeed⟩
    refine hline.parse_eq [] (some (.spriteDef code _)) ?_
    rw [Directive.read?, read?_spriteDef h hcode, Option.bind_some, Directive.ofForm?,
      String.ofList_toList]
    rfl
  · have hline : StandsAlone ("CREATE" ++ texts attrs ++ gap ++ "@ ALL").toList := by
      have hfeed' : '\n' ∉ gap.toList := fun hmem => absurd (hgap _ hmem) (by decide)
      refine .of_ends (c := 'C') (d := 'L') (by simp) (by decide) ?_ (by decide) ?_
      · rw [String.toList_append, List.getLast?_append]
        rfl
      · simpa using ⟨hfeed, hfeed'⟩
    refine hline.parse_eq [] (some (.create _ .all)) ?_
    rw [Directive.read?, read?_create h hgap]
    rfl

/-- Two values for one key. They hold the marks of a directive, a comment and a continuation. -/
theorem parse_quoted_twice :
    let attrs : List QuotedAttribute :=
      [⟨" ", "Name", '"', "it's # \\", by decide, by decide, by decide, by decide, .inl rfl,
          by decide, by decide⟩,
        ⟨"\t ", "name", '\'', " a=\"b\", @ ALL", by decide, by decide, by decide, by decide,
          .inr rfl, by decide, by decide⟩]
    attrs ≠ [] ∧ ∃ read : Attributes, read.get? "name" = some " a=\"b\", @ ALL" ∧
      parse .one ("STATE" ++ QuotedAttribute.texts attrs) = ⟨[.state read], []⟩ := by
  intro attrs
  have hsome : attrs ≠ [] := List.cons_ne_nil _ _
  obtain ⟨read, hget, hstate, -⟩ := parse_quoted .one hsome
  have hname : (attrs.filter (lowered ·.key == "name")).getLast?.map (·.value) =
      some " a=\"b\", @ ALL" := by decide +kernel
  exact ⟨hsome, read, (hget "name").trans hname, hstate⟩

end Lines

end Tabletop.Script
