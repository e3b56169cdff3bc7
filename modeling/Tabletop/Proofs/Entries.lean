import Tabletop.Console.Entry
import Tabletop.Proofs.Blocks
import Tabletop.Proofs.Passages

/-!
# Unfinished entries

The console asks for more lines while a block of heights or a continuation is open. It looks at the
first word of each physical line, where the script reader looks at whole logical lines.

* `continues_iff`: a line goes on if its last character that is not white space is a backslash.
* `WordsAlone` says of the physical lines of a logical line that words of blocks stand alone in it.
  `wordsAlone_iff`: those are the logical lines that both readers take alike.
* `needsMore_eq_isUnfinished_iff`: where words of blocks stand alone, the console is right but for
  entries with blank lines after a backslash. The condition is exact, logical line by logical line.
-/

namespace Tabletop.Console

open Text Script

/-! ## Lines that go on -/

/-- Whether a physical line goes on in the next one. -/
def continues (line : List Char) : Bool := (splitContinuation line).2

theorem continues_iff {line : List Char} : continues line = true ↔ lastMark? line = some '\\' := by
  rcases splitContinuation_cases line with ⟨before, hline, hsplit⟩ | ⟨hmark, hsplit⟩
  · refine iff_of_true (congrArg Prod.snd hsplit) ?_
    rw [← getLast?_trimEnd, hline, List.getLast?_concat]
  · exact iff_of_false (by rw [continues, hsplit]; exact Bool.false_ne_true) hmark

/-! ## The end of an entry -/

/-- Whether the last physical line of an entry goes on. -/
def endsInContinuation (entry : List Char) : Bool := (lines entry).getLast?.any continues

def endsInBackslash (entry : List Char) : Bool := (trimEnd entry).getLast? == some '\\'

theorem endsInBackslash_iff {entry : List Char} :
    endsInBackslash entry = true ↔ lastMark? entry = some '\\' := by
  rw [endsInBackslash, getLast?_trimEnd, beq_iff_eq]

theorem endsInBackslash_of_endsInContinuation {entry : List Char}
    (h : endsInContinuation entry = true) : endsInBackslash entry = true := by
  obtain ⟨line, hline, hcontinues⟩ := (Option.any_eq_true ..).mp h
  obtain ⟨before, hlines⟩ := List.getLast?_eq_some_iff.mp hline
  rw [endsInBackslash_iff, lastMark?_lines, hlines, List.reverse_append, List.reverse_singleton,
    List.singleton_append, List.findSome?_cons, continues_iff.mp hcontinues]

/-! ## Words of blocks -/

def blockWords : List String := ["HEIGHT_START", "HEIGHT_END", "END_HEIGHT"]

/-- Whether a block is open after a word. -/
def afterWord (isOpen : Bool) (word : String) : Bool :=
  if word = "HEIGHT_START" then true
  else if word = "HEIGHT_END" ∨ word = "END_HEIGHT" then false
  else isOpen

/-- Only those words say something, and each of them has no regard to what was open. -/
theorem afterWord_eq_iff {word : String} :
    (∀ isOpen, afterWord isOpen word = isOpen) ↔ word ∉ blockWords := by
  constructor
  · intro h hmem
    rcases List.mem_cons.mp hmem with rfl | hmem
    · exact absurd (h false) (by decide)
    · rcases List.mem_cons.mp hmem with rfl | hmem
      · exact absurd (h true) (by decide)
      · rw [List.mem_singleton.mp hmem] at h
        exact absurd (h true) (by decide)
  · intro h isOpen
    simp only [blockWords, List.mem_cons, List.not_mem_nil, or_false, not_or] at h
    rw [afterWord, if_neg h.1, if_neg (not_or.mpr h.2)]

theorem afterWord_const {word : String} (h : word ∈ blockWords) (a b : Bool) :
    afterWord a word = afterWord b word := by
  revert word a b
  decide

/-- The first word of a line, with all letters in upper case. -/
def firstWord (line : List Char) : String := String.ofList (upper ((words line).headD []))

/-- A line without the blanks around it, with the letters of ASCII in upper case. -/
def wholeLine (line : List Char) : String := String.ofList ((trim line).map Char.toUpper)

theorem blockAfter_eq (isOpen : Bool) (line : List Char) :
    blockAfter isOpen line = afterWord isOpen (firstWord line) := rfl

theorem blockAfterLine_eq (isOpen : Bool) (line : List Char) :
    blockAfterLine isOpen (trim line) = afterWord isOpen (wholeLine line) := by
  have hword : ∀ word : String,
      ((trim line).map Char.toUpper == word.toList) = decide (wholeLine line = word) := by
    intro word
    rw [Bool.eq_iff_iff, beq_iff_eq, decide_eq_true_eq, wholeLine, ← String.toList_inj,
      String.toList_ofList]
  simp only [blockAfterLine, isBlockStart, isBlockEnd, hword, afterWord, Bool.or_eq_true,
    decide_eq_true_eq]

theorem blockWords_plain {word : String} (h : word ∈ blockWords) :
    ∀ c ∈ word.toList, c.toNat < 0x80 ∧ isBlank c = false := by
  have hall : (blockWords.all fun word =>
      word.toList.all fun c => c.toNat < 0x80 && !isBlank c) = true := by
    decide
  intro c hc
  simpa using List.all_eq_true.mp (List.all_eq_true.mp hall word h) c hc

theorem words_of_wholeLine {line : List Char} (h : wholeLine line ∈ blockWords) :
    words line = [trim line] ∧ String.ofList (upper (trim line)) = wholeLine line := by
  have hplain : ∀ c ∈ trim line, c.toNat < 0x80 ∧ isBlank c = false := by
    intro c hc
    have hmem : c.toUpper ∈ (wholeLine line).toList := by
      rw [wholeLine, String.toList_ofList]
      exact List.mem_map_of_mem hc
    obtain ⟨hascii, hmark⟩ := blockWords_plain h c.toUpper hmem
    refine ⟨toNat_lt_of_toUpper hascii, Bool.eq_false_iff.mpr fun hblank => ?_⟩
    rw [toUpper_of_isBlank hblank, hblank] at hmark
    cases hmark
  have hne : trim line ≠ [] := by
    intro hnil
    rw [wholeLine, hnil] at h
    revert h
    decide
  rw [← words_trim, words_eq_singleton hne fun c hc => (hplain c hc).2,
    upper_eq_map fun c hc => (hplain c hc).1]
  exact ⟨rfl, rfl⟩

/-! ## Logical lines -/

/-- The logical line that some physical lines make. -/
def joined (run : List (List Char)) : List Char :=
  run.foldl (fun text line => append text (splitContinuation line).1) []

theorem words_append (text piece : List Char) :
    words (append text piece) = words text ++ words piece := by
  rw [append]
  split
  · rename_i hempty
    rw [List.isEmpty_iff.mp hempty]
    rfl
  · exact words_append_cons (by decide) text piece

theorem words_joined (run : List (List Char)) :
    words (joined run) = run.flatMap fun line => words (splitContinuation line).1 := by
  have hfrom : ∀ text, words (run.foldl (fun text line => append text (splitContinuation line).1)
      text) = words text ++ run.flatMap fun line => words (splitContinuation line).1 := by
    induction run with
    | nil => exact fun text => (List.append_nil _).symm
    | cons line run ih =>
      intro text
      rw [List.foldl_cons, ih, words_append, List.flatMap_cons, List.append_assoc]
  exact hfrom []

/-- A word of blocks at the front of a physical line is a word of its content, since there is no
backslash in it. -/
theorem mem_words_of_firstWord {line : List Char} (h : firstWord line ∈ blockWords) :
    (words line).headD [] ∈ words (splitContinuation line).1 := by
  have hmem : (words line).headD [] ∈ words line := by
    cases hwords : words line with
    | nil =>
      rw [firstWord, hwords] at h
      revert h
      decide
    | cons word others => exact List.mem_cons_self
  rcases splitContinuation_cases line with ⟨before, hline, hsplit⟩ | ⟨-, hsplit⟩
  · have hslash : '\\' ∉ (words line).headD [] := by
      intro hslash
      have hupper : '\\' ∈ (firstWord line).toList := by
        rw [firstWord, String.toList_ofList]
        exact List.mem_flatMap_of_mem hslash (by decide)
      revert hupper
      generalize firstWord line = word at h
      revert word
      decide
    rw [hsplit, words_trim]
    refine mem_of_mem_words_append (d := '\\') (by decide) ?_ hslash
    rw [← hline, words_trimEnd]
    exact hmem
  · rw [hsplit, words_trim]
    exact hmem

theorem firstWord_eq_wholeLine {run : List (List Char)} {line : List Char} (hline : line ∈ run)
    (hword : firstWord line ∈ blockWords) (hwhole : wholeLine (joined run) ∈ blockWords) :
    firstWord line = wholeLine (joined run) := by
  obtain ⟨hwords, hupper⟩ := words_of_wholeLine hwhole
  have hmem : (words line).headD [] ∈ words (joined run) := by
    rw [words_joined]
    exact List.mem_flatMap_of_mem hline (mem_words_of_firstWord hword)
  rw [hwords, List.mem_singleton] at hmem
  rw [firstWord, hmem, hupper]

/-- What the console makes of some physical lines: the last of their words of blocks counts. -/
theorem foldl_blockAfter_cases (run : List (List Char)) :
    ((∀ line ∈ run, firstWord line ∉ blockWords) ∧
        ∀ isOpen, run.foldl blockAfter isOpen = isOpen) ∨
      ∃ line ∈ run, firstWord line ∈ blockWords ∧
        ∀ isOpen, run.foldl blockAfter isOpen = afterWord isOpen (firstWord line) := by
  -- from the last line on: a word of blocks there settles it, else the line can be left out
  induction run using List.reverseRecOn with
  | nil => exact .inl ⟨fun _ hline => absurd hline List.not_mem_nil, fun _ => rfl⟩
  | append_singleton run line ih =>
    have hstep : ∀ isOpen, (run ++ [line]).foldl blockAfter isOpen =
        afterWord (run.foldl blockAfter isOpen) (firstWord line) := by
      intro isOpen
      rw [List.foldl_append, List.foldl_cons, List.foldl_nil, blockAfter_eq]
    by_cases hword : firstWord line ∈ blockWords
    · exact .inr ⟨line, List.mem_concat_self, hword, fun isOpen =>
        (hstep isOpen).trans (afterWord_const hword _ _)⟩
    · have hskip : ∀ isOpen, (run ++ [line]).foldl blockAfter isOpen =
          run.foldl blockAfter isOpen := fun isOpen =>
        (hstep isOpen).trans (afterWord_eq_iff.mpr hword _)
      rcases ih with ⟨hnone, hfold⟩ | ⟨last, hlast, hlastWord, hfold⟩
      · refine .inl ⟨fun other hother => ?_, fun isOpen => (hskip isOpen).trans (hfold isOpen)⟩
        rcases List.mem_append.mp hother with hother | hother
        · exact hnone other hother
        · rw [List.mem_singleton.mp hother]
          exact hword
      · exact .inr ⟨last, List.mem_append_left _ hlast, hlastWord, fun isOpen =>
          (hskip isOpen).trans (hfold isOpen)⟩

/-- In the lines of `run` a word of blocks at the front of a physical line is the whole logical
line, and it is at the front of a physical line if it is the whole logical line. -/
structure WordsAlone (run : List (List Char)) : Prop where
  whole : ∀ line ∈ run, firstWord line ∈ blockWords → firstWord line = wholeLine (joined run)
  seen : wholeLine (joined run) ∈ blockWords → ∃ line ∈ run, firstWord line ∈ blockWords

instance (run : List (List Char)) : Decidable (WordsAlone run) :=
  decidable_of_iff
    ((∀ line ∈ run, firstWord line ∈ blockWords → firstWord line = wholeLine (joined run)) ∧
      (wholeLine (joined run) ∈ blockWords → ∃ line ∈ run, firstWord line ∈ blockWords))
    ⟨fun h => ⟨h.1, h.2⟩, fun h => ⟨h.whole, h.seen⟩⟩

/-- Those are the logical lines that the console and the script reader take alike. -/
theorem wordsAlone_iff {run : List (List Char)} :
    WordsAlone run ↔
      ∀ isOpen, run.foldl blockAfter isOpen = blockAfterLine isOpen (trim (joined run)) := by
  simp only [blockAfterLine_eq]
  -- a word changes nothing, whatever is open, exactly if it is no word of blocks
  rcases foldl_blockAfter_cases run with ⟨hnone, hfold⟩ | ⟨last, hlast, hword, hfold⟩
  · simp only [hfold]
    constructor
    · intro h isOpen
      refine (afterWord_eq_iff.mpr (fun hwhole => ?_) isOpen).symm
      obtain ⟨line, hline, hword⟩ := h.seen hwhole
      exact hnone line hline hword
    · intro h
      have hwhole := afterWord_eq_iff.mp fun isOpen => (h isOpen).symm
      exact ⟨fun line hline hword => absurd hword (hnone line hline), fun h => absurd h hwhole⟩
  · simp only [hfold]
    constructor
    · intro h isOpen
      rw [h.whole last hlast hword]
    · intro h
      have hwhole : wholeLine (joined run) ∈ blockWords := by
        refine by_contra fun hother => afterWord_eq_iff.mp (fun isOpen => ?_) hword
        exact (h isOpen).trans (afterWord_eq_iff.mpr hother isOpen)
      exact ⟨fun line hline hword => firstWord_eq_wholeLine hline hword hwhole,
        fun _ => ⟨last, hlast, hword⟩⟩

/-- The physical lines of one logical line, with the last one among them. -/
def Complete (run : List (List Char)) : Prop :=
  ∃ before last, run = before ++ [last] ∧ (∀ line ∈ before, continues line = true) ∧
    continues last = false

theorem complete_singleton {line : List Char} (h : continues line = false) : Complete [line] :=
  ⟨[], line, rfl, fun _ hmem => absurd hmem List.not_mem_nil, h⟩

theorem joinRun_snd (run : List (List Char × Nat)) :
    (joinRun run).2 = joined (run.map (·.1)) := by
  rw [joinRun, joined, List.foldl_map]

theorem joinFrom_none (n : Nat) (physical : List (List Char)) :
    joinFrom none n physical = (runs (physical.zipIdx n)).map joinRun :=
  joinFrom_opened [] (fun _ hmem => absurd hmem List.not_mem_nil) n physical

theorem joinFrom_append {run : List (List Char)} (h : Complete run) (n : Nat)
    (rest : List (List Char)) :
    joinFrom none n (run ++ rest) = (n, joined run) :: joinFrom none (n + run.length) rest := by
  obtain ⟨before, last, rfl, hbefore, hlast⟩ := h
  have hgoes : ∀ line ∈ before.zipIdx n, goesOn line = true := fun line hline =>
    hbefore line.1 (List.fst_mem_of_mem_zipIdx hline)
  have hrun : (before ++ [last]).zipIdx n = before.zipIdx n ++ [(last, n + before.length)] :=
    List.zipIdx_append
  have hjoin : joinRun ((before ++ [last]).zipIdx n) = (n, joined (before ++ [last])) := by
    refine Prod.ext ?_ ?_
    · cases before with
      | nil => rfl
      | cons line before => rfl
    · rw [joinRun_snd, List.zipIdx_map_fst]
  have hgoesLast : goesOn (last, n + before.length) = false := hlast
  rw [joinFrom_none, joinFrom_none, List.zipIdx_append, hrun, List.append_assoc,
    List.singleton_append, runs_append_last hgoes hgoesLast, List.map_cons, ← hrun, hjoin]

/-! ## Whole entries -/

/-- Whether a block is open at the end of a script. -/
def blockIsOpen (base : RowBase) (entry : List Char) : Bool :=
  (feedAll base .shut (logicalLines entry)).1.block.isSome

/-- A block is open at the end, or the last line goes on. -/
def isUnfinished (base : RowBase) (entry : List Char) : Bool :=
  blockIsOpen base entry || endsInContinuation entry

theorem blockIsOpen_eq (base : RowBase) (entry : List Char) :
    blockIsOpen base entry =
      (runs ((lines entry).zipIdx 1)).foldl
        (fun isOpen run => blockAfterLine isOpen (trim (joined (run.map (·.1))))) false := by
  rw [blockIsOpen, blockAfter_feedAll, logicalLines_eq, List.foldl_map]
  simp only [joinRun_snd]
  rfl

theorem foldl_blockAfter_eq (entry : List Char) :
    (lines entry).foldl blockAfter false =
      (runs ((lines entry).zipIdx 1)).foldl
        (fun isOpen run => (run.map (·.1)).foldl blockAfter isOpen) false := by
  have hruns : (runs ((lines entry).zipIdx 1)).flatten.map (·.1) = lines entry := by
    rw [runs, List.flatten_splitBy, List.zipIdx_map_fst]
  conv_lhs => rw [← hruns]
  simp only [List.foldl_map, List.foldl_flatten]

theorem needsMore_of_wordsAlone (base : RowBase) {entry : List Char}
    (h : ∀ run ∈ runs ((lines entry).zipIdx 1), WordsAlone (run.map (·.1))) :
    needsMore entry = (endsInBackslash entry || blockIsOpen base entry) := by
  have hblocks : (lines entry).foldl blockAfter false = blockIsOpen base entry := by
    rw [foldl_blockAfter_eq, blockIsOpen_eq]
    exact List.foldl_ext _ _ _ fun isOpen run hrun =>
      wordsAlone_iff.mp (h run hrun) isOpen
  rw [needsMore, hblocks]
  rfl

/-! ## Entries around a logical line -/

/-- The line that opens a block, if there is to be one. -/
def opening (isOpen : Bool) : List (List Char) :=
  if isOpen then ["HEIGHT_START".toList] else []

/-- An entry with the lines of `run` in it, inside of a block or outside of one. The last line
keeps backslashes away from the end. -/
def around (isOpen : Bool) (run : List (List Char)) : List Char :=
  ofLines (opening isOpen ++ (run ++ ["RESET".toList]))

variable {run : List (List Char)}

theorem lines_around (h : ∀ line ∈ run, '\n' ∉ line) (isOpen : Bool) :
    lines (around isOpen run) = opening isOpen ++ (run ++ ["RESET".toList]) := by
  refine lines_ofLines fun line hline => ?_
  rcases List.mem_append.mp hline with hline | hline
  · have hopening : ∀ isOpen, ∀ line ∈ opening isOpen, '\n' ∉ line := by decide
    exact hopening isOpen line hline
  · rcases List.mem_append.mp hline with hline | hline
    · exact h line hline
    · rw [List.mem_singleton.mp hline]
      decide

theorem lastMark?_around (h : ∀ line ∈ run, '\n' ∉ line) (isOpen : Bool) :
    lastMark? (around isOpen run) = some 'T' := by
  rw [lastMark?_lines, lines_around h, ← List.append_assoc, List.reverse_append]
  rfl

theorem needsMore_around (h : ∀ line ∈ run, '\n' ∉ line) (isOpen : Bool) :
    needsMore (around isOpen run) = run.foldl blockAfter isOpen := by
  have hopening : (opening isOpen).foldl blockAfter false = isOpen := by
    revert isOpen
    decide
  have hreset : ∀ isOpen, blockAfter isOpen "RESET".toList = isOpen := by decide
  rw [needsMore, getLast?_trimEnd, lastMark?_around h, lines_around h, List.foldl_append,
    List.foldl_append, hopening, List.foldl_cons, List.foldl_nil, hreset]
  rfl

theorem isUnfinished_around (base : RowBase) (hrun : Complete run)
    (h : ∀ line ∈ run, '\n' ∉ line) (isOpen : Bool) :
    isUnfinished base (around isOpen run) = blockAfterLine isOpen (trim (joined run)) := by
  have hend : endsInContinuation (around isOpen run) = false := by
    refine Bool.eq_false_iff.mpr fun hend => ?_
    have hslash := endsInBackslash_iff.mp (endsInBackslash_of_endsInContinuation hend)
    rw [lastMark?_around h] at hslash
    cases hslash
  have hlines : ∀ n, joinFrom none n (run ++ ["RESET".toList]) =
      [(n, joined run), (n + run.length, "RESET".toList)] := by
    intro n
    rw [joinFrom_append hrun]
    exact congrArg _ (joinFrom_append (complete_singleton (by decide)) _ [])
  have hlast : ∀ isOpen, blockAfterLine isOpen (trim "RESET".toList) = isOpen := by decide
  rw [isUnfinished, hend, Bool.or_false, blockIsOpen, blockAfter_feedAll, logicalLines,
    lines_around h]
  cases isOpen with
  | false =>
    rw [opening, if_neg Bool.false_ne_true, List.nil_append, hlines]
    exact hlast _
  | true =>
    have hstart : blockAfterLine false (trim (joined ["HEIGHT_START".toList])) = true := by decide
    rw [opening, if_pos rfl, joinFrom_append (complete_singleton (by decide)), hlines,
      List.foldl_cons]
    exact (hlast _).trans (congrArg (blockAfterLine · (trim (joined run))) hstart)

/-- Where words of blocks stand alone in every logical line of an entry, the console asks for more
lines exactly if the entry is unfinished, or ends in a backslash with only blank lines behind it.
This holds for no other logical line: in an entry around it, outside of a block or inside of one,
the console is wrong. -/
theorem needsMore_eq_isUnfinished_iff (base : RowBase) :
    (∀ entry, (endsInContinuation entry = false →
        ∀ run ∈ runs ((lines entry).zipIdx 1), WordsAlone (run.map (·.1))) →
      (needsMore entry = isUnfinished base entry ↔
        (endsInBackslash entry = true → isUnfinished base entry = true))) ∧
    ∀ run, Complete run → (∀ line ∈ run, '\n' ∉ line) →
      (WordsAlone run ↔
        ∀ isOpen, needsMore (around isOpen run) = isUnfinished base (around isOpen run)) := by
  refine ⟨fun entry h => ?_, fun run hrun h => ?_⟩
  · cases hend : endsInContinuation entry with
    | true =>
      have hslash := endsInBackslash_of_endsInContinuation hend
      have hneeds : needsMore entry = true := Bool.or_eq_true_iff.mpr (.inl hslash)
      have hunfinished : isUnfinished base entry = true := Bool.or_eq_true_iff.mpr (.inr hend)
      rw [hneeds, hunfinished]
      exact iff_of_true rfl fun _ => rfl
    | false =>
      have hunfinished : isUnfinished base entry = blockIsOpen base entry := by
        rw [isUnfinished, hend, Bool.or_false]
      rw [needsMore_of_wordsAlone base (h hend), hunfinished]
      cases endsInBackslash entry with
      | true =>
        rw [Bool.true_or]
        exact ⟨fun h _ => h.symm, fun h => (h rfl).symm⟩
      | false =>
        rw [Bool.false_or]
        exact iff_of_true rfl fun h => absurd h Bool.false_ne_true
  · simp only [wordsAlone_iff, needsMore_around h, isUnfinished_around base hrun h]

/-- A row of a block may go over two lines, and the word at its end be in letters of both cases.
With a number behind it that word ends no block. -/
theorem needsMore_eq_isUnfinished_closed_block :
    let entry := "HEIGHT_START\n1 2 \\\n3\nHeight_End\nPLACE rock @ A1".toList
    let line := "Height_End 2".toList
    ((endsInContinuation entry = false ∧
        ∀ run ∈ runs ((lines entry).zipIdx 1), WordsAlone (run.map (·.1))) ∧
      (endsInBackslash entry = true → isUnfinished .one entry = true) ∧
      needsMore entry = isUnfinished .one entry) ∧
    (Complete [line] ∧ (∀ line' ∈ [line], '\n' ∉ line') ∧ ¬ WordsAlone [line] ∧
      ∃ isOpen, needsMore (around isOpen [line]) ≠ isUnfinished .one (around isOpen [line])) := by
  intro entry line
  obtain ⟨hall, hexact⟩ := needsMore_eq_isUnfinished_iff .one
  have hend : endsInContinuation entry = false := by decide +kernel
  have halone : ∀ run ∈ runs ((lines entry).zipIdx 1), WordsAlone (run.map (·.1)) := by
    decide +kernel
  have hslash : endsInBackslash entry = true → isUnfinished .one entry = true := by
    decide +kernel
  have hcomplete : Complete [line] := complete_singleton (by decide +kernel)
  have hfeed : ∀ line' ∈ [line], '\n' ∉ line' := by decide +kernel
  have hother : ¬ WordsAlone [line] := by decide +kernel
  refine ⟨⟨⟨hend, halone⟩, hslash, (hall entry fun _ => halone).mpr hslash⟩,
    hcomplete, hfeed, hother, not_forall.mp fun h => ?_⟩
  exact hother ((hexact [line] hcomplete hfeed).mpr h)

/-- With a number behind it the word opens no block, but the console waits for the end of one. -/
theorem needsMore_heightStart_number :
    needsMore "HEIGHT_START 2".toList = true ∧
      isUnfinished .one "HEIGHT_START 2".toList = false := by
  decide +kernel

end Tabletop.Console
