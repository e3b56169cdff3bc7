import Tabletop.Proofs.Forms
import Tabletop.Proofs.Text
import Tabletop.Script

/-!
# Blocks of heights

A block of heights is open from a line `HEIGHT_START` up to a line `HEIGHT_END` or `END_HEIGHT`.
What stands on other lines has no part in it, be they rows of the block or directives.

* `Script.opensBlock_trim`: a directive opens a block exactly if it is that one word, in any letter
  case.
* `Script.blockAfterLine` is what one logical line does to a block, and `Script.blockAfter_feedAll`
  what a script does: the last line that is a word of blocks counts.
-/

namespace Tabletop.Script

open Text

/-! ## Words of blocks -/

/-- The whole line is the word that opens a block. -/
def isBlockStart (line : List Char) : Bool := line.map Char.toUpper == "HEIGHT_START".toList

theorem toUpper_mem_of_isBlockStart {line : List Char} (h : isBlockStart line = true) {c : Char}
    (hc : c ∈ line) : c.toUpper ∈ "HEIGHT_START".toList := by
  rw [← beq_iff_eq.mp h]
  exact List.mem_map_of_mem hc

theorem skip_of_isBlockStart {line : List Char} (h : isBlockStart line = true) :
    skip line = line := by
  refine List.dropWhile_eq_self_iff.mpr fun hne hgap => ?_
  have hmem := toUpper_mem_of_isBlockStart h (List.getElem_mem (l := line) hne)
  rw [isGap, Bool.or_eq_true, beq_iff_eq, beq_iff_eq] at hgap
  rcases hgap with hgap | hgap
  · rw [hgap] at hmem
    revert hmem
    decide
  · rw [hgap] at hmem
    revert hmem
    decide

theorem read?_of_isBlockStart {line : List Char} (h : isBlockStart line = true) :
    Form.read? line = some .heightStart := by
  have hstart : keyword? "HEIGHT_START" line = some [] := by
    rw [keyword?, skip_of_isBlockStart h, ← beq_iff_eq.mp h, word?_self]
    rfl
  have hfront : Form.front? line = some (.heightStart, []) := by
    rw [Form.front?_of_keyword ["HEIGHT_START"] rfl hstart, Form.heightStart?, hstart]
    rfl
  rw [Form.read?, hfront]
  rfl

theorem skip_trim (text : List Char) : skip (trim text) = trim text := by
  refine skip_of_stops fun c hc => Bool.eq_false_iff.mpr fun hgap => ?_
  have hmark := isBlank_of_head?_trim hc
  rw [isBlank_of_isGap hgap] at hmark
  cases hmark

/-- A line of blanks cannot end a text without blanks at its end. -/
theorem eq_nil_of_skip_eq_nil {text front rest : List Char} (h : trim text = front ++ rest)
    (hrest : skip rest = []) : rest = [] := by
  have hgaps := List.dropWhile_eq_nil_iff.mp hrest
  cases hlast : rest.getLast? with
  | none => exact List.getLast?_eq_none_iff.mp hlast
  | some c =>
    have htrim : (trim text).getLast? = some c := by
      rw [h, List.getLast?_append, hlast]
      rfl
    have hmark := isBlank_of_getLast?_trim htrim
    rw [isBlank_of_isGap (hgaps c (List.mem_of_getLast? hlast))] at hmark
    cases hmark

theorem isBlockStart_of_read? {text : List Char}
    (h : Form.read? (trim text) = some .heightStart) : isBlockStart (trim text) = true := by
  obtain ⟨⟨form, rest⟩, hfront, hform⟩ := Option.bind_eq_some_iff.mp h
  dsimp only at hform
  split at hform
  · rename_i hskip
    cases hform
    obtain ⟨rest', hkeyword, hpair⟩ := Option.bind_eq_some_iff.mp (Form.reader_of_front? hfront)
    cases hpair
    obtain ⟨hword, -⟩ := Option.filter_eq_some_iff.mp hkeyword
    obtain ⟨front, hline, hupper⟩ := word?_eq_some hword
    rw [skip_trim] at hline
    have hrest : rest = [] := eq_nil_of_skip_eq_nil hline (List.isEmpty_iff.mp hskip)
    rw [isBlockStart, hline, hrest, List.append_nil, hupper]
    rfl
  · cases hform

theorem read?_eq_heightStart_iff {text : List Char} :
    Form.read? (trim text) = some .heightStart ↔ isBlockStart (trim text) = true :=
  ⟨isBlockStart_of_read?, read?_of_isBlockStart⟩

/-! ## Directives that open a block -/

/-- Only the form of that word opens a block. -/
theorem form_of_startBlock {base : RowBase} {form : Form} {reading : Reading}
    (h : Directive.ofForm? base form = some reading)
    (hstart : reading.directive = some .startBlock) : form = .heightStart := by
  cases Form.asks_of_ofForm? h hstart with
  | heightStart => rfl

/-- Whether the directive on a line opens a block. -/
def opensBlock (base : RowBase) (line : List Char) : Bool :=
  (Directive.read? base line).any (·.directive == some .startBlock)

theorem opensBlock_trim (base : RowBase) (text : List Char) :
    opensBlock base (trim text) = isBlockStart (trim text) := by
  rw [Bool.eq_iff_iff, ← read?_eq_heightStart_iff, opensBlock, Option.any_eq_true]
  constructor
  · rintro ⟨reading, hread, hstart⟩
    obtain ⟨form, hform, hreading⟩ := Option.bind_eq_some_iff.mp hread
    rw [hform, form_of_startBlock hreading (beq_iff_eq.mp hstart)]
  · intro hform
    exact ⟨⟨[], some .startBlock⟩, by rw [Directive.read?, hform]; rfl, rfl⟩

/-! ## Lines and scripts -/

/-- Whether a block is open after a logical line without the blanks around it. -/
def blockAfterLine (isOpen : Bool) (line : List Char) : Bool :=
  if isBlockStart line then true else if isBlockEnd line then false else isOpen

theorem isBlockEnd_of_isBlockStart {line : List Char} (h : isBlockStart line = true) :
    isBlockEnd line = false := by
  rw [isBlockEnd, beq_iff_eq.mp h]
  decide

theorem blockAfterLine_false (line : List Char) :
    blockAfterLine false line = isBlockStart line := by
  rw [blockAfterLine, ite_self]
  cases isBlockStart line with
  | true => rfl
  | false => rfl

theorem blockAfterLine_true (line : List Char) : blockAfterLine true line = !isBlockEnd line := by
  rw [blockAfterLine]
  cases hstart : isBlockStart line with
  | true =>
    rw [isBlockEnd_of_isBlockStart hstart]
    rfl
  | false =>
    cases isBlockEnd line with
    | true => rfl
    | false => rfl

theorem block_feedDirective (base : RowBase) {held : Buffers} (h : held.block = none) (n : Nat)
    (line : List Char) :
    (feedDirective base held n line).1.block.isSome = opensBlock base line := by
  have hshut : held.block.isSome = false := by
    rw [h]
    rfl
  rw [feedDirective, opensBlock]
  cases Directive.read? base line with
  | none => exact hshut
  | some reading =>
    dsimp only [Option.any_some]
    rcases reading.directive with _ | ⟨_ | _ | _ | _⟩
    · exact hshut
    · exact hshut
    · exact hshut
    · rfl
    · exact hshut

theorem mem_of_isHeightPairs {line : List Char} (h : isHeightPairs line = true) : '=' ∈ line := by
  rw [isHeightPairs] at h
  split at h
  · rename_i found _ hfound
    obtain ⟨⟨_, rest⟩, hpair, -⟩ := Option.bind_eq_some_iff.mp hfound
    obtain ⟨⟨taken, left⟩, hrun, hleft⟩ := Option.bind_eq_some_iff.mp hpair
    dsimp only at hleft
    split at hleft
    · obtain ⟨-, -, -, hskip⟩ := run?_eq_some_iff.mp hrun
      have hmem : '=' ∈ skip line := hskip ▸ List.mem_append_right _ List.mem_cons_self
      exact (skip_suffix line).subset hmem
    · cases hleft
  · cases h

/-- Rows of heights have an equals sign. -/
theorem not_isHeightPairs_of_isBlockStart {line : List Char} (h : isBlockStart line = true) :
    isHeightPairs line = false := by
  refine Bool.eq_false_iff.mpr fun hpairs => ?_
  have hmem := toUpper_mem_of_isBlockStart h (mem_of_isHeightPairs hpairs)
  revert hmem
  decide

theorem block_feedLine (base : RowBase) (held : Buffers) (n : Nat) (text : List Char) :
    (feedLine base held n (trim text)).1.block.isSome =
      blockAfterLine held.block.isSome (trim text) := by
  rw [feedLine]
  split
  · rename_i hblock
    rw [hblock, Option.isSome_some, blockAfterLine_true]
    cases isBlockEnd (trim text) with
    | true => rfl
    | false => rfl
  · rename_i hblock _
    rw [hblock, Option.isSome_none, blockAfterLine_false]
    split
    · rename_i hpairs
      refine (Bool.eq_false_iff.mpr fun hstart => ?_).symm
      rw [not_isHeightPairs_of_isBlockStart hstart] at hpairs
      cases hpairs
    · rw [block_feedDirective base hblock, opensBlock_trim]
  · rename_i hblock _
    rw [hblock, Option.isSome_none, blockAfterLine_false, block_feedDirective base hblock,
      opensBlock_trim]

/-- Neither of these lines is empty or a comment. -/
theorem counts_of_head? {line : List Char} {c : Char}
    (h : (line.map Char.toUpper).head? = some c) (hc : c ∈ ['H', 'E']) : counts line = true := by
  cases line with
  | nil => cases h
  | cons first line =>
    rw [List.map_cons, List.head?_cons, Option.some_inj] at h
    subst h
    have hhash : first ≠ '#' := by
      rintro rfl
      revert hc
      decide
    have hslash : first ≠ '/' := by
      rintro rfl
      revert hc
      decide
    simp [counts, isComment, List.isPrefixOf, hhash, Ne.symm hslash]

theorem blockAfterLine_of_not_counts (isOpen : Bool) {line : List Char}
    (h : counts line = false) : blockAfterLine isOpen line = isOpen := by
  have hother : ∀ word c, word.head? = some c → c ∈ ['H', 'E'] →
      (line.map Char.toUpper == word) = false := by
    intro word c hword hc
    refine beq_eq_false_iff_ne.mpr fun hline => ?_
    rw [counts_of_head? (hline ▸ hword) hc] at h
    cases h
  rw [blockAfterLine, isBlockStart, isBlockEnd, hother "HEIGHT_START".toList 'H' rfl (by decide),
    hother "HEIGHT_END".toList 'H' rfl (by decide), hother "END_HEIGHT".toList 'E' rfl (by decide)]
  rfl

theorem block_feed (base : RowBase) (held : Buffers) (n : Nat) (text : List Char) :
    (feed base held n text).1.block.isSome = blockAfterLine held.block.isSome (trim text) := by
  rw [feed]
  split
  · exact block_feedLine base held n text
  · rename_i hcounts
    rw [blockAfterLine_of_not_counts _ (Bool.not_eq_true _ ▸ hcounts)]

/-- A block is open after a script, or a part of one, by its last line that is a word of blocks. -/
theorem blockAfter_feedAll (base : RowBase) (held : Buffers) (logical : List (Nat × List Char)) :
    (feedAll base held logical).1.block.isSome =
      logical.foldl (fun isOpen line => blockAfterLine isOpen (trim line.2))
        held.block.isSome := by
  induction logical generalizing held with
  | nil => rfl
  | cons line logical ih =>
    rw [feedAll, List.foldl_cons, ← block_feed base held line.1]
    exact ih _

end Tabletop.Script
