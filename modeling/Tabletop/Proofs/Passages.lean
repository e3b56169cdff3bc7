import Mathlib.Data.List.SplitBy
import Tabletop.Proofs.Text
import Tabletop.Script

/-!
# Passages of a script

A script says the same whether it is read line by line, with what is open in two buffers, or cut
into passages: a line that begins something, and the lines after it that belong to it.

* `runs` are the physical lines of each logical line; `logicalLines_eq`.
* `passages` cuts the lines that count. A block ends with its last line, the text of a `HEIGHT`
  directive before the next directive, whose predicate is a parameter. `flatMap_lines_passages`: the
  passages hold every line once and in order.
* `readFrom` is the state machine up to the end of the script, with an equation for each buffer
  that is open; `readFrom_shut` goes from passage to passage.
* `parse_eq_passages` has both, and that the two buffers are never open together.
  `StandsAlone.parse_eq` is what a single directive gives.
-/

namespace Tabletop.Script

open Text

/-! ## Logical lines -/

theorem splitContinuation_cases (line : List Char) :
    (∃ before, trimEnd line = before ++ ['\\'] ∧ splitContinuation line = (trim before, true)) ∨
      lastMark? line ≠ some '\\' ∧ splitContinuation line = (trim line, false) := by
  rw [← getLast?_trimEnd, ← List.head?_reverse, splitContinuation]
  split
  · rename_i before hbefore
    exact .inl ⟨before.reverse, List.reverse_eq_cons_iff.mp hbefore, rfl⟩
  · rename_i hother
    refine .inr ⟨fun hhead => ?_, ?_⟩
    · obtain ⟨before, hbefore⟩ := List.head?_eq_some_iff.mp hhead
      exact hother before hbefore
    · rw [List.reverse_reverse, trim_trimEnd]

/-- Whether a physical line, here with its number, goes on in the next one. -/
def goesOn (line : List Char × Nat) : Bool := (splitContinuation line.1).2

/-- The logical line that a run of physical lines makes. It has the number of the first of them. -/
def joinRun (run : List (List Char × Nat)) : Nat × List Char :=
  ((run.headD ([], 0)).2,
    run.foldl (fun text line => append text (splitContinuation line.1).1) [])

/-- The longest runs of physical lines in which every line but the last goes on. -/
def runs (physical : List (List Char × Nat)) : List (List (List Char × Nat)) :=
  physical.splitBy fun line _ => goesOn line

theorem isChain_append_last {run : List (List Char × Nat)}
    (hrun : ∀ line ∈ run, goesOn line = true) (last : List Char × Nat) :
    (run ++ [last]).IsChain fun line _ => goesOn line = true := by
  induction run with
  | nil => exact .singleton last
  | cons line run ih =>
    have htail := ih fun line' hmem => hrun line' (List.mem_cons_of_mem line hmem)
    exact htail.cons fun _ _ => hrun line List.mem_cons_self

theorem runs_append_last {run : List (List Char × Nat)} (hrun : ∀ line ∈ run, goesOn line = true)
    {last : List Char × Nat} (hlast : goesOn last = false) (rest : List (List Char × Nat)) :
    runs (run ++ last :: rest) = (run ++ [last]) :: runs rest := by
  have hfirst : runs (run ++ [last]) = [run ++ [last]] :=
    List.splitBy_of_isChain (by simp) (isChain_append_last hrun last)
  have hsplit : runs (run ++ [last] ++ rest) = runs (run ++ [last]) ++ runs rest := by
    refine List.splitBy_append fun line hline _ _ => ?_
    rw [List.getLast?_append, List.getLast?_singleton, Option.some_or, Option.mem_some_iff] at hline
    rw [← hline, hlast]
  rw [List.append_cons, hsplit, hfirst, List.singleton_append]

theorem runs_of_goesOn {run : List (List Char × Nat)} (hrun : ∀ line ∈ run, goesOn line = true)
    (hne : run ≠ []) : runs run = [run] := by
  obtain ⟨before, last, rfl⟩ := (List.eq_nil_or_concat' run).resolve_left hne
  exact List.splitBy_of_isChain hne
    (isChain_append_last (fun line hmem => hrun line (List.mem_append_left _ hmem)) last)

/-- The logical line that is open after the lines of a run. -/
def opened : List (List Char × Nat) → Option (Nat × List Char)
  | [] => none
  | line :: run => some (joinRun (line :: run))

theorem joinFrom_cons (run : List (List Char × Nat)) (n : Nat) (line : List Char)
    (rest : List (List Char)) :
    joinFrom (opened run) n (line :: rest) =
      if goesOn (line, n) then joinFrom (opened (run ++ [(line, n)])) (n + 1) rest
      else joinRun (run ++ [(line, n)]) :: joinFrom none (n + 1) rest := by
  cases run with
  | nil => rfl
  | cons first run =>
    have hjoin : joinRun (first :: run ++ [(line, n)]) =
        ((joinRun (first :: run)).1,
          append (joinRun (first :: run)).2 (splitContinuation line).1) := by
      simp only [joinRun, List.cons_append, List.headD_cons, List.foldl_cons, List.foldl_append,
        List.foldl_nil]
    rw [List.cons_append] at hjoin
    rw [opened, joinFrom, List.cons_append, opened, hjoin]
    rfl

/-- The induction is on the physical lines that are left; `run` are those of the logical line that
is open. -/
theorem joinFrom_opened (run : List (List Char × Nat)) (hrun : ∀ line ∈ run, goesOn line = true)
    (n : Nat) (rest : List (List Char)) :
    joinFrom (opened run) n rest = (runs (run ++ rest.zipIdx n)).map joinRun := by
  induction rest generalizing run n with
  | nil =>
    cases run with
    | nil => rfl
    | cons line run =>
      rw [List.zipIdx_nil, List.append_nil, runs_of_goesOn hrun (List.cons_ne_nil line run)]
      rfl
  | cons line rest ih =>
    rw [joinFrom_cons, List.zipIdx_cons]
    cases hline : goesOn (line, n) with
    | true =>
      have hrun' : ∀ line' ∈ run ++ [(line, n)], goesOn line' = true := by
        intro line' hmem
        rcases List.mem_append.mp hmem with hmem | hmem
        · exact hrun line' hmem
        · rw [List.mem_singleton.mp hmem, hline]
      rw [if_pos rfl, ih _ hrun', ← List.append_cons]
    | false =>
      have hnone := ih [] (fun _ hmem => absurd hmem List.not_mem_nil) (n + 1)
      rw [if_neg (by simp), runs_append_last hrun hline, List.map_cons]
      exact congrArg _ hnone

/-- Every physical line is in exactly one logical line, in its place. -/
theorem logicalLines_eq (source : List Char) :
    logicalLines source = (runs ((lines source).zipIdx 1)).map joinRun :=
  joinFrom_opened [] (fun _ hmem => absurd hmem List.not_mem_nil) 1 (lines source)

/-! ## Passages -/

/-- The lines that count, without the blanks around them. -/
def counting (logical : List (Nat × List Char)) : List (Nat × List Char) :=
  (logical.map fun line => (line.1, trim line.2)).filter (counts ·.2)

theorem counting_cons (line : Nat × List Char) (logical : List (Nat × List Char)) :
    counting (line :: logical) =
      if counts (trim line.2) then (line.1, trim line.2) :: counting logical
      else counting logical := by
  rw [counting, List.map_cons, List.filter_cons, ← counting]

/-- What a line begins, with the lines after it that belong to it. -/
inductive Body where
  /-- No directive, or the end of a block where none is open. -/
  | missed
  /-- A directive all of whose operands were dropped. -/
  | nothing
  /-- A directive that is done with its line. -/
  | alone (instruction : Instruction)
  /-- The rows of a block, and its last line if there is one. -/
  | block (rows : List (Nat × List Char)) (last : Option (Nat × List Char))
  /-- The text after `HEIGHT`, and the lines before the next directive. -/
  | heights (text : String) (after : List (Nat × List Char))

/-- A line, the entries of it that were dropped, and what it begins. -/
structure Passage where
  opening : Nat × List Char
  dropped : List String
  body : Body

namespace Body

def lines : Body → List (Nat × List Char)
  | .missed => []
  | .nothing => []
  | .alone _ => []
  | .block rows last => rows ++ last.toList
  | .heights _ after => after

/-- The text of a `HEIGHT` directive, with the lines of heights among those after it. -/
def heightText (text : String) (after : List (Nat × List Char)) : String :=
  " ".intercalate (text :: (after.filter (isHeightPairs ·.2)).map (String.ofList ·.2))

def instruction? : Body → Option Instruction
  | .missed => none
  | .nothing => none
  | .alone instruction => some instruction
  | .block rows _ => some (.heightRows (rows.map (String.ofList ·.2)))
  | .heights text after =>
    if (trim (heightText text after).toList).isEmpty then none
    else some (.heightRaw (heightText text after))

def blockRows (after : List (Nat × List Char)) : List (Nat × List Char) :=
  after.takeWhile (!isBlockEnd ·.2)

/-- The lines of a `HEIGHT` directive end before one that satisfies `ends`. -/
def heightLines (ends : List Char → Bool) (after : List (Nat × List Char)) :
    List (Nat × List Char) :=
  after.takeWhile (!ends ·.2)

/-- What a directive begins before the lines `after`. -/
def ofDirective (ends : List Char → Bool) (after : List (Nat × List Char)) : Option Directive → Body
  | none => .nothing
  | some (.emit instruction) => .alone instruction
  | some (.openHeights text) => .heights text (heightLines ends after)
  | some .startBlock => .block (blockRows after) (after.find? (isBlockEnd ·.2))
  | some .endBlock => .missed

theorem heightLines_cons (ends : List Char → Bool) (line : Nat × List Char)
    (after : List (Nat × List Char)) :
    heightLines ends (line :: after) =
      if ends line.2 then [] else line :: heightLines ends after := by
  rw [heightLines, List.takeWhile_cons]
  cases ends line.2 with
  | true => rfl
  | false => rfl

theorem heightText_nil (text : String) : heightText text [] = text := rfl

theorem heightText_cons (text : String) (line : Nat × List Char) (after : List (Nat × List Char)) :
    heightText text (line :: after) =
      if isHeightPairs line.2 then heightText (text ++ " " ++ String.ofList line.2) after
      else heightText text after := by
  rw [heightText, List.filter_cons]
  split
  · rfl
  · rfl

theorem instruction?_heights (text : String) (after : List (Nat × List Char)) :
    (heights text after).instruction?.toList =
      Buffers.closeHeights ⟨none, some (heightText text after)⟩ := by
  rw [Body.instruction?, Buffers.closeHeights]
  dsimp only
  split
  · rfl
  · rfl

end Body

def missOf (line : Nat × List Char) : Event := .miss line.1 (String.ofList line.2)

namespace Passage

def lines (p : Passage) : List (Nat × List Char) := p.opening :: p.body.lines

/-- The lines that are reported. -/
def misses (p : Passage) : List (Nat × List Char) :=
  match p.body with
  | .missed => [p.opening]
  | .nothing => []
  | .alone _ => []
  | .block _ _ => []
  | .heights _ after => after.filter (!isHeightPairs ·.2)

def events (p : Passage) : List Event :=
  p.dropped.map (Event.dropped p.opening.1) ++ p.misses.map missOf

def output (p : Passage) : Output := ⟨p.body.instruction?.toList, p.events⟩

/-- The passage that begins with a line outside of blocks. -/
def of (base : RowBase) (ends : List Char → Bool) (line : Nat × List Char)
    (after : List (Nat × List Char)) : Passage :=
  match Directive.read? base line.2 with
  | none => ⟨line, [], .missed⟩
  | some reading => ⟨line, reading.dropped, .ofDirective ends after reading.directive⟩

end Passage

/-- Lines cut into passages: the next one begins after the last line of the one before. -/
def passages (base : RowBase) (ends : List Char → Bool) : List (Nat × List Char) → List Passage
  | [] => []
  | line :: after =>
    let passage := Passage.of base ends line after
    passage :: passages base ends (after.drop passage.body.lines.length)
termination_by lines => lines.length
decreasing_by
  rw [List.length_drop, List.length_cons]
  omega

theorem Body.lines_ofDirective (ends : List Char → Bool) (after : List (Nat × List Char))
    (directive : Option Directive) : (ofDirective ends after directive).lines <+: after := by
  rcases directive with _ | ⟨_ | text | _ | _⟩
  · exact List.nil_prefix
  · exact List.nil_prefix
  · exact List.takeWhile_prefix _
  · induction after with
    | nil => exact List.nil_prefix
    | cons line after ih =>
      rw [ofDirective, lines, blockRows] at *
      rw [List.takeWhile_cons, List.find?_cons]
      cases isBlockEnd line.2 with
      | true => exact ⟨after, rfl⟩
      | false => exact List.cons_prefix_cons.mpr ⟨rfl, ih⟩
  · exact List.nil_prefix

theorem Passage.lines_of_append (base : RowBase) (ends : List Char → Bool) (line : Nat × List Char)
    (after : List (Nat × List Char)) :
    (of base ends line after).lines ++ after.drop (of base ends line after).body.lines.length =
      line :: after := by
  rw [of]
  split
  · rfl
  · rename_i reading _
    have hbody := Body.lines_ofDirective ends after reading.directive
    exact congrArg (line :: ·) (List.prefix_iff_eq_append.mp hbody)

/-- No line is lost, taken twice or moved. -/
theorem flatMap_lines_passages (base : RowBase) (ends : List Char → Bool)
    (lines : List (Nat × List Char)) :
    (passages base ends lines).flatMap Passage.lines = lines := by
  induction lines using passages.induct base ends with
  | case1 => rw [passages, List.flatMap_nil]
  | case2 line after passage ih =>
    rw [passages, List.flatMap_cons, ih]
    exact Passage.lines_of_append base ends line after

/-! ## Reading -/

/-- A line that the text of an open `HEIGHT` directive ends before: a directive that does not go on
with heights. -/
def endsHeights (base : RowBase) (line : List Char) : Bool :=
  !isHeightPairs line && (Directive.read? base line).isSome

namespace Output

theorem append_assoc (a b c : Output) : (a.append b).append c = a.append (b.append c) := by
  simp only [append, List.append_assoc]

theorem empty_append (a : Output) : empty.append a = a := rfl

end Output

/-- What the lines that count give with some buffers open, up to the end of the script. -/
def readFrom (base : RowBase) (held : Buffers) : List (Nat × List Char) → Output
  | [] => ⟨held.closeBlock ++ held.closeHeights, []⟩
  | line :: rest =>
    (feedLine base held line.1 line.2).2.append
      (readFrom base (feedLine base held line.1 line.2).1 rest)

theorem feedAll_append_close (base : RowBase) (held : Buffers) (logical : List (Nat × List Char)) :
    let last := (feedAll base held logical).1
    (feedAll base held logical).2.append ⟨last.closeBlock ++ last.closeHeights, []⟩ =
      readFrom base held (counting logical) := by
  dsimp only
  induction logical generalizing held with
  | nil => rfl
  | cons line logical ih =>
    rw [feedAll, Output.append_assoc, ih, feed, counting_cons]
    cases counts (trim line.2) with
    | true => rfl
    | false => rfl

theorem parse_eq_readFrom (base : RowBase) (source : String) :
    parse base source = readFrom base .shut (counting (logicalLines source.toList)) :=
  feedAll_append_close base .shut (logicalLines source.toList)

theorem feedLine_shut (base : RowBase) (n : Nat) (line : List Char) :
    feedLine base .shut n line = feedDirective base .shut n line := rfl

theorem feedLine_block (base : RowBase) (rows : List String) (n : Nat) (line : List Char) :
    feedLine base ⟨some rows, none⟩ n line =
      if isBlockEnd line then (.shut, ⟨[.heightRows rows], []⟩)
      else (⟨some (rows ++ [String.ofList line]), none⟩, .empty) := rfl

theorem feedLine_heights (base : RowBase) (text : String) (n : Nat) (line : List Char) :
    feedLine base ⟨none, some text⟩ n line =
      if isHeightPairs line then (⟨none, some (text ++ " " ++ String.ofList line)⟩, .empty)
      else feedDirective base ⟨none, some text⟩ n line := rfl

/-- An open block takes the lines up to its end. -/
theorem readFrom_block (base : RowBase) (ends : List Char → Bool) (rows : List String)
    (lines : List (Nat × List Char)) :
    readFrom base ⟨some rows, none⟩ lines =
      Output.append
        ⟨[.heightRows (rows ++ (Body.blockRows lines).map (String.ofList ·.2))], []⟩
        (readFrom base .shut
          (lines.drop (Body.ofDirective ends lines (some .startBlock)).lines.length)) := by
  induction lines generalizing rows with
  | nil =>
    rw [Body.blockRows, List.takeWhile_nil, List.map_nil, List.append_nil]
    rfl
  | cons line lines ih =>
    rw [readFrom, feedLine_block, Body.ofDirective, Body.blockRows, List.takeWhile_cons,
      List.find?_cons]
    cases isBlockEnd line.2 with
    | true =>
      simp only [if_true, Bool.not_true, Bool.false_eq_true, if_false, List.map_nil,
        List.append_nil]
      rfl
    | false =>
      simp only [Bool.false_eq_true, if_false, Bool.not_false, if_true, List.map_cons]
      have hrest := ih (rows ++ [String.ofList line.2])
      rw [List.append_assoc, List.singleton_append] at hrest
      exact hrest

theorem feedDirective_of_none {base : RowBase} {line : List Char}
    (h : Directive.read? base line = none) (held : Buffers) (n : Nat) :
    feedDirective base held n line = (held, ⟨[], [missOf (n, line)]⟩) := by
  rw [feedDirective, h]
  rfl

/-- A directive closes what is open before it does anything else. -/
theorem feedDirective_heights (base : RowBase) (text : String) (n : Nat) {line : List Char}
    (h : (Directive.read? base line).isSome = true) :
    feedDirective base ⟨none, some text⟩ n line =
      ((feedDirective base .shut n line).1,
        Output.append ⟨Buffers.closeHeights ⟨none, some text⟩, []⟩
          (feedDirective base .shut n line).2) := by
  obtain ⟨⟨dropped, directive⟩, hread⟩ := Option.isSome_iff_exists.mp h
  have hshut : Buffers.closeHeights ⟨none, none⟩ = [] := rfl
  rw [feedDirective, feedDirective, hread]
  rcases directive with _ | ⟨_ | _ | _ | _⟩
  all_goals simp [Output.append, Buffers.shut, hshut]

/-- The text of an open `HEIGHT` directive takes the lines of heights before the next directive. -/
theorem readFrom_heights (base : RowBase) (text : String) (lines : List (Nat × List Char)) :
    readFrom base ⟨none, some text⟩ lines =
      Output.append
        ⟨Buffers.closeHeights
            ⟨none, some (Body.heightText text (Body.heightLines (endsHeights base) lines))⟩,
          ((Body.heightLines (endsHeights base) lines).filter (!isHeightPairs ·.2)).map missOf⟩
        (readFrom base .shut
          (lines.drop (Body.heightLines (endsHeights base) lines).length)) := by
  induction lines generalizing text with
  | nil =>
    rw [readFrom, Body.heightLines, List.takeWhile_nil, Body.heightText_nil, List.drop_nil,
      readFrom]
    simp [Output.append, Buffers.closeBlock, Buffers.closeHeights, Buffers.shut]
  | cons line lines ih =>
    -- heights go on with the text, a directive ends it, and any other line is passed over
    rw [readFrom, feedLine_heights, Body.heightLines_cons, endsHeights]
    cases hpairs : isHeightPairs line.2 with
    | true =>
      simp only [if_true, Bool.not_true, Bool.false_and, Bool.false_eq_true, if_false,
        Body.heightText_cons, hpairs, List.filter_cons, List.length_cons, List.drop_succ_cons,
        Output.empty_append]
      exact ih (text ++ " " ++ String.ofList line.2)
    | false =>
      cases hread : (Directive.read? base line.2).isSome with
      | true =>
        simp only [Bool.false_eq_true, if_false, Bool.not_false, Bool.and_self, if_true]
        rw [feedDirective_heights base text line.1 hread, Output.append_assoc, Body.heightText_nil,
          List.filter_nil, List.map_nil, List.length_nil, List.drop_zero, readFrom, feedLine_shut]
      | false =>
        have hnone := Option.isNone_iff_eq_none.mp (Option.isSome_eq_false_iff.mp hread)
        simp only [Bool.false_eq_true, if_false, Bool.and_false, Bool.not_false, if_true,
          Body.heightText_cons, hpairs, List.filter_cons, List.length_cons, List.drop_succ_cons]
        rw [feedDirective_of_none hnone, ih]
        simp only [Output.append, List.nil_append, List.cons_append, List.map_cons]

/-- A line where nothing is open gives the passage that it begins. -/
theorem readFrom_cons (base : RowBase) (line : Nat × List Char) (after : List (Nat × List Char)) :
    let passage := Passage.of base (endsHeights base) line after
    readFrom base .shut (line :: after) =
      passage.output.append (readFrom base .shut (after.drop passage.body.lines.length)) := by
  intro passage
  rw [readFrom, feedLine_shut]
  cases hread : Directive.read? base line.2 with
  | none =>
    have hpassage : passage = ⟨line, [], .missed⟩ := by
      simp only [passage, Passage.of, hread]
    rw [feedDirective_of_none hread, hpassage]
    rfl
  | some reading =>
    have hpassage : passage = ⟨line, reading.dropped,
        .ofDirective (endsHeights base) after reading.directive⟩ := by
      simp only [passage, Passage.of, hread]
    have hdropped : ∀ instructions, Output.mk instructions (reading.dropped.map (.dropped line.1)) =
        ⟨instructions, reading.dropped.map (.dropped line.1) ++ []⟩ := by
      intro instructions
      rw [List.append_nil]
    rw [feedDirective, hread, hpassage]
    rcases reading with ⟨dropped, _ | ⟨instruction | text | _ | _⟩⟩
    · exact congrArg (Output.append · _) (hdropped [])
    · exact congrArg (Output.append · _) (hdropped [instruction])
    · have hrest := readFrom_heights base text after
      rw [← Body.instruction?_heights] at hrest
      dsimp only [Buffers.shut]
      rw [hrest, ← Output.append_assoc]
      rfl
    · have hrest := readFrom_block base (endsHeights base) [] after
      dsimp only
      rw [hrest, ← Output.append_assoc]
      rfl
    · rfl

/-- The state machine reads the passages one after the other. -/
theorem readFrom_shut (base : RowBase) (lines : List (Nat × List Char)) :
    readFrom base .shut lines =
      ⟨(passages base (endsHeights base) lines).filterMap (·.body.instruction?),
        (passages base (endsHeights base) lines).flatMap Passage.events⟩ := by
  induction lines using passages.induct base (endsHeights base) with
  | case1 =>
    rw [passages]
    rfl
  | case2 line after passage ih =>
    have hstep : readFrom base .shut (line :: after) =
        passage.output.append (readFrom base .shut (after.drop passage.body.lines.length)) :=
      readFrom_cons base line after
    have hinstructions : passage.body.instruction?.toList ++
        (passages base (endsHeights base) (after.drop passage.body.lines.length)).filterMap
          (·.body.instruction?) =
        (passage :: passages base (endsHeights base)
          (after.drop passage.body.lines.length)).filterMap (·.body.instruction?) := by
      rw [List.filterMap_cons]
      cases passage.body.instruction? with
      | none => rfl
      | some instruction => rfl
    rw [hstep, ih, passages, ← hinstructions]
    rfl

/-! ## Scripts of one line -/

/-- A line that counts, without blanks around it, and that does not go on. -/
structure StandsAlone (line : List Char) : Prop where
  whole : '\n' ∉ line
  trimmed : trim line = line
  ends : line.getLast? ≠ some '\\'
  counts : counts line = true

theorem StandsAlone.of_ends {c d : Char} {line : List Char} (hhead : line.head? = some c)
    (hfirst : isBlank c = false ∧ c ≠ '#' ∧ c ≠ '/') (hlast : line.getLast? = some d)
    (hend : isBlank d = false ∧ d ≠ '\\') (hwhole : '\n' ∉ line) : StandsAlone line where
  whole := hwhole
  trimmed := by
    refine trim_of_ends (fun c' hc' => ?_) fun d' hd' => ?_
    · rw [hhead] at hc'
      exact Option.some.inj hc' ▸ hfirst.1
    · rw [hlast] at hd'
      exact Option.some.inj hd' ▸ hend.1
  ends := by
    rw [hlast]
    exact fun heq => hend.2 (Option.some.inj heq)
  counts := by
    obtain ⟨rest, rfl⟩ := List.head?_eq_some_iff.mp hhead
    simp [Script.counts, isComment, List.isPrefixOf, hfirst.2.1, Ne.symm hfirst.2.2]

theorem StandsAlone.logicalLines_eq {line : List Char} (h : StandsAlone line) :
    logicalLines line = [(1, line)] := by
  have hne : line ≠ [] := by
    rintro rfl
    cases h.counts
  have hend : trimEnd line = line := by
    conv_lhs => rw [← h.trimmed, trim, trimEnd_trimEnd, ← trim, h.trimmed]
  rw [logicalLines, lines_of_not_mem hne h.whole]
  rcases splitContinuation_cases line with ⟨before, hline, -⟩ | ⟨-, hsplit⟩
  · have hlast := h.ends
    rw [← hend, hline, List.getLast?_concat] at hlast
    exact absurd rfl hlast
  · rw [h.trimmed] at hsplit
    rw [joinFrom, hsplit]
    rfl

theorem StandsAlone.parse_eq {base : RowBase} {source : String} (h : StandsAlone source.toList)
    (dropped : List String) (instruction? : Option Instruction)
    (hread : Directive.read? base source.toList = some ⟨dropped, instruction?.map .emit⟩) :
    parse base source = ⟨instruction?.toList, dropped.map (Event.dropped 1)⟩ := by
  rw [parse_eq_readFrom, h.logicalLines_eq, counting_cons, h.trimmed, if_pos h.counts, readFrom,
    feedLine_shut, feedDirective, hread]
  cases instruction? with
  | none => exact congrArg _ (List.append_nil _)
  | some instruction => exact congrArg _ (List.append_nil _)

/-! ## Buffers -/

/-- At most one of the two buffers is open. -/
def Buffers.Apart (held : Buffers) : Prop := held.block = none ∨ held.heights = none

theorem apart_feedDirective (base : RowBase) {held : Buffers} (h : held.block = none) (n : Nat)
    (line : List Char) : (feedDirective base held n line).1.Apart := by
  rw [feedDirective]
  split
  · exact .inl h
  · dsimp only
    split
    · exact .inr rfl
    · exact .inr rfl
    · exact .inl h
    · exact .inr rfl
    · exact .inr rfl

theorem apart_feedLine (base : RowBase) {held : Buffers} (h : held.Apart) (n : Nat)
    (line : List Char) : (feedLine base held n line).1.Apart := by
  rw [feedLine]
  split
  · rename_i rows text hblock
    have hheights : held.heights = none := h.resolve_left (by simp [hblock])
    split
    · exact .inl rfl
    · exact .inr hheights
  · rename_i text hblock hheights
    split
    · exact .inl hblock
    · exact apart_feedDirective base hblock n line
  · rename_i hblock hheights
    exact apart_feedDirective base hblock n line

theorem apart_feed (base : RowBase) {held : Buffers} (h : held.Apart) (n : Nat)
    (text : List Char) : (feed base held n text).1.Apart := by
  rw [feed]
  split
  · exact apart_feedLine base h n _
  · exact h

theorem apart_feedAll (base : RowBase) {held : Buffers} (h : held.Apart)
    (logical : List (Nat × List Char)) : (feedAll base held logical).1.Apart := by
  induction logical generalizing held with
  | nil => exact h
  | cons line logical ih => exact ih (apart_feed base h line.1 line.2)

/-! ## Scripts -/

/-- A script gives the instructions of its passages, in the order in which these begin, and the
events of its passages; every line that counts is in exactly one of them. After no line are both
buffers open. -/
theorem parse_eq_passages (base : RowBase) (source : String) :
    let logical := logicalLines source.toList
    let read := passages base (endsHeights base) (counting logical)
    logical = (runs ((lines source.toList).zipIdx 1)).map joinRun ∧
      read.flatMap Passage.lines = counting logical ∧
      (parse base source).instructions = read.filterMap (·.body.instruction?) ∧
      (parse base source).events = read.flatMap Passage.events ∧
      ∀ n, (feedAll base .shut (logical.take n)).1.Apart := by
  intro logical read
  have hparse : parse base source = _ :=
    (parse_eq_readFrom base source).trans (readFrom_shut base (counting logical))
  refine ⟨logicalLines_eq source.toList, flatMap_lines_passages _ _ _, ?_, ?_, fun n => ?_⟩
  · rw [hparse]
  · rw [hparse]
  · exact apart_feedAll base (.inl rfl) (logical.take n)

/-- A line of heights can be a directive, too. It goes on with the text of the `HEIGHT` directive
and does not end it. -/
theorem heights_go_on_before_directive :
    (parse .one "HEIGHT A1=1\nMAP=2").instructions = [.heightRaw "A1=1 MAP=2"] ∧
      (passages .one (fun line => (Directive.read? .one line).isSome)
          (counting (logicalLines "HEIGHT A1=1\nMAP=2".toList))).filterMap (·.body.instruction?) =
        [.heightRaw "A1=1", .map "=2"] := by
  decide +kernel

end Tabletop.Script
