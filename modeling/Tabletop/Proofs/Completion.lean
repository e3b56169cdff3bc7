import Tabletop.Console.Completion
import Tabletop.Proofs.Text

/-!
# Completion replaces a whole piece of the line

The piece that is completed reaches up to the cursor. It begins where the typed text begins, or
behind the mark that ends the word before it: white space, a comma or `>`. That is one byte behind
the place of the mark, which is inside the mark if it takes several bytes.

* `takeBytes?_eq_some_iff`: the fronts of a text by their length in bytes.
* `wordEnd?` is the mark that the last word begins behind. `lastWord?_eq_none_iff`: that mark takes
  several bytes.
* `complete?_of_place`: the completion has no answer exactly then, and otherwise it begins at a
  character, not after the cursor, and its terms are those that begin with the piece.
-/

namespace Tabletop.Console

/-! ## Bytes -/

theorem bytes_nil : bytes [] = 0 := by simp [bytes]

theorem bytes_append (a b : List Char) : bytes (a ++ b) = bytes a + bytes b := by
  rw [bytes, String.ofList_append, String.utf8ByteSize_append, bytes, bytes]

theorem bytes_cons (c : Char) (cs : List Char) : bytes (c :: cs) = c.utf8Size + bytes cs := by
  have hone : bytes [c] = c.utf8Size := by simp [bytes]
  rw [← List.singleton_append, bytes_append, hone]

theorem takeBytes?_append (a b : List Char) : takeBytes? (bytes a) (a ++ b) = some a := by
  induction a with
  | nil => rw [bytes_nil, takeBytes?]
  | cons c a ih =>
    obtain ⟨n, hn⟩ := Nat.exists_eq_add_one_of_ne_zero c.utf8Size_pos.ne'
    have hsize : bytes (c :: a) = n + bytes a + 1 := by
      rw [bytes_cons]
      omega
    have hrest : n + bytes a + 1 - c.utf8Size = bytes a := by omega
    rw [hsize, List.cons_append, takeBytes?, if_pos (by omega), hrest, ih]
    rfl

/-- The first bytes of a text are a front of it. -/
theorem takeBytes?_eq_some_iff {n : Nat} {cs front : List Char} :
    takeBytes? n cs = some front ↔ ∃ back, cs = front ++ back ∧ n = bytes front := by
  constructor
  · intro h
    induction n, cs using takeBytes?.induct generalizing front with
    | case1 cs =>
      rw [takeBytes?, Option.some.injEq] at h
      exact ⟨cs, h ▸ rfl, h ▸ bytes_nil.symm⟩
    | case2 n =>
      rw [takeBytes?] at h
      cases h
    | case3 n c rest hle ih =>
      rw [takeBytes?, if_pos hle] at h
      obtain ⟨front, hfront, rfl⟩ := Option.map_eq_some_iff.mp h
      obtain ⟨back, rfl, hbytes⟩ := ih hfront
      refine ⟨back, rfl, ?_⟩
      rw [bytes_cons]
      omega
    | case4 n c rest hlarge =>
      rw [takeBytes?, if_neg hlarge] at h
      cases h
  · rintro ⟨back, rfl, rfl⟩
    exact takeBytes?_append front back

/-! ## The last word -/

/-- The mark that the last word of a text begins behind. -/
def wordEnd? (cs : List Char) : Option Char := cs.reverse.find? isWordEnd

/-- The text before the last word, with the mark at its end. -/
def beforeWord (cs : List Char) : List Char := (cs.reverse.dropWhile (!isWordEnd ·)).reverse

def lastWord (cs : List Char) : List Char := (cs.reverse.takeWhile (!isWordEnd ·)).reverse

theorem beforeWord_append_lastWord (cs : List Char) : beforeWord cs ++ lastWord cs = cs := by
  rw [beforeWord, lastWord, ← List.reverse_append, List.takeWhile_append_dropWhile,
    List.reverse_reverse]

theorem getLast?_beforeWord (cs : List Char) : (beforeWord cs).getLast? = wordEnd? cs := by
  rw [beforeWord, List.getLast?_reverse, wordEnd?, List.find?_eq_head?_dropWhile_not]

/-- One byte behind the mark before the last word is inside this mark. -/
def BeginsInside (cs : List Char) : Prop := ∃ mark, wordEnd? cs = some mark ∧ 1 < mark.utf8Size

theorem lastWord?_cases (cs : List Char) :
    (BeginsInside cs ∧ lastWord? cs = none) ∨
      (¬ BeginsInside cs ∧ lastWord? cs = some (bytes (beforeWord cs), lastWord cs)) := by
  have hbefore : cs.take (cs.length - (lastWord cs).length) = beforeWord cs := by
    have hlength := congrArg List.length (beforeWord_append_lastWord cs)
    rw [List.length_append] at hlength
    rw [← hlength, Nat.add_sub_cancel]
    exact (List.prefix_iff_eq_take.mp ⟨lastWord cs, beforeWord_append_lastWord cs⟩).symm
  rw [lastWord?, ← lastWord, hbefore, getLast?_beforeWord]
  cases hmark : wordEnd? cs with
  | none =>
    -- without a mark the word is the whole text
    refine .inr ⟨fun ⟨_, hsome, _⟩ => ?_, ?_⟩
    · rw [hmark] at hsome
      cases hsome
    · rw [← getLast?_beforeWord, List.getLast?_eq_none_iff] at hmark
      rw [hmark, bytes_nil]
  | some mark =>
    have hpos := mark.utf8Size_pos
    dsimp only
    split
    · rename_i hone
      refine .inr ⟨fun ⟨mark', hmark', hlarge⟩ => ?_, rfl⟩
      obtain rfl := Option.some.inj (hmark.symm.trans hmark')
      omega
    · exact .inl ⟨⟨mark, hmark, by omega⟩, rfl⟩

/-! ## Terms -/

/-- Whether operands of a directive about tokens are being typed. -/
def inOperands (typed : List Char) : Bool :=
  tokenDirectives.contains (String.ofList ((Text.words (Text.upper typed)).headD [])) &&
    typed.any Text.isBlank

/-- What a line may begin with. -/
def openings : List String := Usage.all.map (·.name) ++ directives

/-- A term that can stand in the place of a piece: among operands a token id that begins with the
piece in lower case, and elsewhere an opening that begins with it in upper case. -/
def Fits (ids : List String) (typed piece : List Char) (term : String) : Prop :=
  if inOperands typed then term ∈ ids ∧ Text.lower piece <+: Text.lower term.toList
  else piece ≠ [] ∧ term ∈ openings ∧ Text.upper piece <+: Text.upper term.toList

theorem inOperands_nil : inOperands [] = false := by rw [inOperands, List.any_nil, Bool.and_false]

theorem completeTyped?_of_operands (ids : List String) (start : Nat) {typed : List Char}
    (h : inOperands typed = true) :
    completeTyped? ids start typed = (lastWord? typed).map fun (offset, word) =>
      ⟨start + offset, ids.filter fun id =>
        (Text.lower word).isPrefixOf (Text.lower id.toList)⟩ := by
  have hsome : ¬ typed.isEmpty = true := by
    rw [List.isEmpty_iff]
    rintro rfl
    rw [inOperands_nil] at h
    cases h
  rw [completeTyped?]
  dsimp only
  rw [if_neg hsome]
  refine (if_pos h).trans ?_
  cases lastWord? typed with
  | none => rfl
  | some found => rfl

theorem completeTyped?_of_opening (ids : List String) (start : Nat) {typed : List Char}
    (h : inOperands typed = false) :
    completeTyped? ids start typed = some ⟨start, if typed.isEmpty then [] else
      openings.filter fun term => (Text.upper typed).isPrefixOf (Text.upper term.toList)⟩ := by
  rw [completeTyped?]
  dsimp only
  split
  · rfl
  · exact if_neg (Bool.eq_false_iff.mp h)

theorem completeTyped?_cases (ids : List String) (start : Nat) (typed : List Char) :
    (inOperands typed = true ∧ BeginsInside typed ∧ completeTyped? ids start typed = none) ∨
      (¬ (inOperands typed = true ∧ BeginsInside typed) ∧ ∃ before piece terms,
        typed = before ++ piece ∧ (∀ term, term ∈ terms ↔ Fits ids typed piece term) ∧
          completeTyped? ids start typed = some ⟨start + bytes before, terms⟩) := by
  cases h : inOperands typed with
  | true =>
    rw [completeTyped?_of_operands ids start h]
    rcases lastWord?_cases typed with ⟨hinside, hnone⟩ | ⟨houtside, hsome⟩
    · exact .inl ⟨rfl, hinside, by rw [hnone]; rfl⟩
    · refine .inr ⟨fun hboth => houtside hboth.2, beforeWord typed, lastWord typed, _,
        (beforeWord_append_lastWord typed).symm, fun term => ?_, by rw [hsome]; rfl⟩
      rw [Fits, if_pos h, List.mem_filter, List.isPrefixOf_iff_prefix]
  | false =>
    refine .inr ⟨fun hboth => absurd hboth.1 Bool.false_ne_true, [], typed, _, rfl, fun term => ?_,
      by rw [bytes_nil]; exact completeTyped?_of_opening ids start h⟩
    rw [Fits, if_neg (Bool.eq_false_iff.mp h)]
    split
    · rename_i hempty
      exact iff_of_false List.not_mem_nil fun hfits => hfits.1 (List.isEmpty_iff.mp hempty)
    · rename_i hsome
      rw [List.mem_filter, List.isPrefixOf_iff_prefix]
      exact ⟨fun hfits => ⟨fun hnil => hsome (List.isEmpty_iff.mpr hnil), hfits⟩,
        fun hfits => hfits.2⟩

/-! ## Completion -/

/-- With the cursor at a character the completion has an answer, unless an id is typed behind white
space of several bytes. The answer replaces what stands between a character, not behind the cursor,
and the cursor, by the terms that begin with it. -/
theorem complete?_of_place (ids : List String) {line : String} {place : Nat} {front : List Char}
    (hplace : takeBytes? place line.toList = some front) :
    let typed := Text.trimStart front
    (complete? ids line place = none ↔ inOperands typed = true ∧ BeginsInside typed) ∧
      ∀ c, complete? ids line place = some c → c.start ≤ place ∧ ∃ before piece,
        takeBytes? c.start line.toList = some before ∧ front = before ++ piece ∧
          ∀ term, term ∈ c.terms ↔ Fits ids typed piece term := by
  intro typed
  obtain ⟨back, hline, hbytes⟩ := takeBytes?_eq_some_iff.mp hplace
  obtain ⟨blanks, hfront⟩ : ∃ blanks, front = blanks ++ typed :=
    ⟨front.takeWhile Text.isBlank, List.takeWhile_append_dropWhile.symm⟩
  have hcomplete : complete? ids line place = completeTyped? ids (bytes blanks) typed := by
    have hstart : place - bytes typed = bytes blanks := by
      rw [hbytes, hfront, bytes_append, Nat.add_sub_cancel]
    rw [complete?, hplace, ← hstart]
    rfl
  rw [hcomplete]
  rcases completeTyped?_cases ids (bytes blanks) typed with
    ⟨hoperands, hinside, hnone⟩ | ⟨hnot, before, piece, terms, htyped, hterms, hsome⟩
  · refine ⟨iff_of_true hnone ⟨hoperands, hinside⟩, fun c hc => ?_⟩
    rw [hnone] at hc
    cases hc
  · refine ⟨iff_of_false (by rw [hsome]; exact Option.some_ne_none _) hnot, fun c hc => ?_⟩
    rw [hsome, Option.some.injEq] at hc
    subst hc
    have hpiece : front = blanks ++ before ++ piece := by
      rw [List.append_assoc, ← htyped, ← hfront]
    have hle : bytes blanks + bytes before ≤ place := by
      rw [hbytes, hpiece, bytes_append, bytes_append]
      exact Nat.le_add_right _ _
    refine ⟨hle, blanks ++ before, piece, takeBytes?_eq_some_iff.mpr ⟨piece ++ back, ?_, ?_⟩,
      hpiece, hterms⟩
    · rw [hline, hpiece, List.append_assoc]
    · rw [bytes_append]

/-- The target of an attack is typed, behind a comma and in the middle of a line with an ideographic
space. -/
theorem complete?_of_place_target :
    let line := "attack\u3000Goblin-1,Ég now"
    takeBytes? 21 line.toList = some "attack\u3000Goblin-1,Ég".toList ∧
      complete? ["église-1", "goblin-1"] line 21 = some ⟨18, ["église-1"]⟩ ∧
      18 ≤ 21 ∧ ∃ before piece, takeBytes? 18 line.toList = some before ∧
        "attack\u3000Goblin-1,Ég".toList = before ++ piece ∧
        Fits ["église-1", "goblin-1"] "attack\u3000Goblin-1,Ég".toList piece "église-1" := by
  intro line
  have hplace : takeBytes? 21 line.toList = some "attack\u3000Goblin-1,Ég".toList := by
    decide +kernel
  have hcomplete : complete? ["église-1", "goblin-1"] line 21 = some ⟨18, ["église-1"]⟩ := by
    decide +kernel
  obtain ⟨-, hpiece⟩ := complete?_of_place ["église-1", "goblin-1"] hplace
  obtain ⟨hle, before, piece, hbefore, hfront, hterms⟩ := hpiece _ hcomplete
  exact ⟨hplace, hcomplete, hle, before, piece, hbefore, hfront,
    (hterms "église-1").mp (List.mem_singleton_self _)⟩

/-- An ideographic space takes three bytes, and the id behind it is not completed. -/
theorem complete?_eq_none_ideographic_space :
    let line := "move\u3000gob"
    takeBytes? 10 line.toList = some line.toList ∧ complete? ["goblin-1"] line 10 = none := by
  decide +kernel

end Tabletop.Console
