import Tabletop.Proofs.Board
import Tabletop.Proofs.Mirror
import Tabletop.Proofs.Sprite

/-!
# The check of a list is right about its tokens

The check follows codes, tokens and board by a ledger, without a world. For a list in which it finds
nothing, the ledger agrees with the world and the roster that the list leads to.

* `Lint.Plain`: codes are ASCII and the stems of ids can be read back. Other codes and stems mean
  one thing to the check and another to the world.
* `Lint.Accounts` relates a ledger to a world: the same tokens, the same board, and a definition for
  each declared code.
* `Accounts.next` and `Accounts.roster_known`: an instruction without a fault keeps it so, and names
  only what there is.
* `run_known` and `follow_known`: so does a whole list, and in the end the tokens are the same three
  times.
-/

namespace Tabletop

/-! ## The sides of a board -/

namespace Instruction

theorem ofNat_pos {n : Nat} (h : 0 < n) : 0 < UInt32.ofNat (min n Decimal.word32) := by
  rw [UInt32.lt_iff_toNat_lt, Decimal.toNat_ofNat_of_le (Nat.min_le_right _ _)]
  exact Nat.lt_min.mpr ⟨h, by decide⟩

theorem le_widest (n : Nat) (lines : List String) :
    n ≤ lines.foldl (fun n row => max n (row.toList.splitOn ',').length) n := by
  induction lines generalizing n with
  | nil => exact Nat.le_refl n
  | cons line lines ih => exact (Nat.le_max_left n _).trans (ih _)

/-- A block of height rows has both sides or none. -/
theorem rowsExtent_cases (lines : List String) :
    rowsExtent lines = (0, 0) ∨ 0 < (rowsExtent lines).1 ∧ 0 < (rowsExtent lines).2 := by
  cases lines with
  | nil => exact .inl rfl
  | cons line lines =>
    have hline : 0 < (line.toList.splitOn ',').length :=
      List.length_pos_iff.mpr (List.splitOn_ne_nil ',' line.toList)
    have hwidest := le_widest (max 0 (line.toList.splitOn ',').length) lines
    refine .inr ⟨ofNat_pos ?_, ofNat_pos (Nat.succ_pos _)⟩
    rw [List.foldl_cons]
    omega

end Instruction

/-! ## Causes -/

theorem head?_append {a b : String} {c : Char} (h : a.toList.head? = some c) :
    (a ++ b).toList.head? = some c := by
  rw [String.toList_append, List.head?_append, h]
  rfl

namespace Skip

/-- Whether an instruction was skipped because it names what there is not. -/
def isUnknown : Skip → Bool
  | .unknownToken _ | .unknownDefinition _ => true
  | _ => false

/-- The messages of these causes have a first letter of their own. -/
theorem head?_message (cause : Skip) :
    cause.message.toList.head? = some 'u' ↔ cause.isUnknown = true := by
  cases cause with
  | unknownToken reference =>
    exact iff_of_true (head?_append (head?_append (by decide +kernel))) rfl
  | unknownDefinition reference =>
    exact iff_of_true (head?_append (head?_append (by decide +kernel))) rfl
  | missingAttribute key =>
    have hfirst : (missingAttribute key).message.toList.head? = some 'm' :=
      head?_append (head?_append (by decide +kernel))
    rw [hfirst]
    exact iff_of_false (by decide) Bool.false_ne_true
  | noBoard => decide +kernel
  | noCoordinates => decide +kernel
  | invalidRange low high =>
    have hfirst : (invalidRange low high).message.toList.head? = some 'i' :=
      head?_append (head?_append (head?_append (by decide +kernel)))
    rw [hfirst]
    exact iff_of_false (by decide) Bool.false_ne_true

theorem isUnknown_of_message_eq {a b : Skip} (h : a.message = b.message) :
    a.isUnknown = b.isUnknown := by
  rw [Bool.eq_iff_iff, ← head?_message, ← head?_message, h]

end Skip

namespace Unfollowed

/-- Whether an instruction was not followed because it names what there is not. -/
def isUnknown : Unfollowed → Bool
  | .unknownToken _ | .unknownDefinition _ => true
  | _ => false

theorem head?_message (cause : Unfollowed) :
    cause.message.toList.head? = some 'u' ↔ cause.isUnknown = true := by
  cases cause with
  | unknownToken reference =>
    exact iff_of_true (head?_append (head?_append (by decide +kernel))) rfl
  | unknownDefinition reference =>
    exact iff_of_true (head?_append (head?_append (by decide +kernel))) rfl
  | noDefinition => decide +kernel
  | emptyPath => decide +kernel
  | noId => decide +kernel

theorem isUnknown_of_message_eq {a b : Unfollowed} (h : a.message = b.message) :
    a.isUnknown = b.isUnknown := by
  rw [Bool.eq_iff_iff, ← head?_message, ← head?_message, h]

end Unfollowed

/-- The instruction was not skipped because it names what there is not. -/
def Step.NamesKnown (s : Step) : Prop := ∀ cause, s.skipped = some cause → cause.isUnknown = false

/-! ## Spawning -/

namespace World

theorem spawn_ids (sprite : Sprite) (stem : String) (attrs : Attributes) (w : World)
    (cells : List Cell) :
    (spawn sprite stem attrs w cells).world.scene.ids =
      Lint.Ledger.mintOn stem cells.length w.scene.ids := by
  rw [spawn]
  split
  · rename_i hempty
    rw [List.isEmpty_iff.mp hempty]
    rfl
  · exact spawnOn_ids sprite stem attrs w cells

theorem spawn_skipped {sprite : Sprite} {stem : String} {attrs : Attributes} {w : World}
    {cells : List Cell} {cause : Skip}
    (h : (spawn sprite stem attrs w cells).skipped = some cause) : cause.isUnknown = false := by
  rw [spawn] at h
  split at h
  · cases h
    rfl
  · cases h

end World

namespace Lint

/-! ## Lists that are spelled plainly -/

/-- The codes that an instruction declares or refers to. -/
def codes : Instruction → List String
  | .spriteDef code _ => [code]
  | .place code _ => [code]
  | .create attrs _ => attrs.reference?.toList
  | _ => []

/-- Codes are ASCII, and the ids of new tokens can be read back. -/
def Plain (i : Instruction) : Prop :=
  (∀ code ∈ codes i, Text.IsAscii code) ∧ ∀ stem ∈ stems i, TokenId.Readable stem

instance (i : Instruction) : Decidable (Plain i) :=
  inferInstanceAs (Decidable ((∀ code ∈ codes i, Text.IsAscii code) ∧
    ∀ stem ∈ stems i, TokenId.Readable stem))

theorem Plain.create {attrs : Attributes} {target : Target} {reference : String}
    (h : Plain (.create attrs target)) (href : attrs.reference? = some reference) :
    Text.IsAscii reference ∧ TokenId.Readable (attrs.stem?.getD reference) :=
  ⟨h.1 reference (by simp [codes, href]), h.2 _ (by simp [stems, href])⟩

/-! ## Ledger and world -/

/-- The board of a ledger and that of a world. One without cells is none for the ledger. -/
inductive SameBoard : Option (UInt32 × UInt32) → Board → Prop where
  | none {b : Board} (cols : b.cols = 0) (rows : b.rows = 0) : SameBoard none b
  | some {b : Board} (cols : 0 < b.cols) (rows : 0 < b.rows) : SameBoard (some (b.cols, b.rows)) b

theorem SameBoard.congr {board : Option (UInt32 × UInt32)} {b b' : Board} (h : SameBoard board b)
    (cols : b'.cols = b.cols) (rows : b'.rows = b.rows) : SameBoard board b' := by
  cases h with
  | none hcols hrows => exact .none (cols.trans hcols) (rows.trans hrows)
  | some hcols hrows =>
    rw [← cols] at hcols ⊢
    rw [← rows] at hrows ⊢
    exact .some hcols hrows

theorem zero_max (n : UInt32) : max 0 n = n := by
  apply UInt32.toNat_inj.mp
  rw [TokenId.toNat_max]
  exact Nat.zero_max _

theorem max_zero (n : UInt32) : max n 0 = n := by
  apply UInt32.toNat_inj.mp
  rw [TokenId.toNat_max]
  exact Nat.max_zero _

theorem max_pos {a : UInt32} (b : UInt32) (h : 0 < a) : 0 < max a b := by
  rw [UInt32.lt_iff_toNat_lt] at h ⊢
  rw [TokenId.toNat_max]
  exact Nat.lt_of_lt_of_le h (Nat.le_max_left _ _)

theorem SameBoard.grow {l : Ledger} {b : Board} (h : SameBoard l.board b) {cols rows : UInt32}
    (hsides : (cols, rows) = (0, 0) ∨ 0 < cols ∧ 0 < rows) :
    SameBoard (l.grow cols rows).board (b.grow cols rows) := by
  obtain ⟨sprites, live, board⟩ := l
  cases h with
  | none hcols hrows =>
    simp only [Ledger.grow, Option.getD_none, zero_max]
    rcases hsides with hzero | hpos
    · obtain ⟨rfl, rfl⟩ := Prod.mk.inj hzero
      rw [if_neg (by decide)]
      exact .none ((max_zero _).trans hcols) ((max_zero _).trans hrows)
    · have hsame : (b.grow cols rows).cols = cols ∧ (b.grow cols rows).rows = rows := by
        rw [Board.grow, hcols, hrows, zero_max, zero_max]
        exact ⟨rfl, rfl⟩
      have hboard := SameBoard.some (b := b.grow cols rows) (hsame.1.symm ▸ hpos.1)
        (hsame.2.symm ▸ hpos.2)
      rw [if_pos hpos]
      rw [hsame.1, hsame.2] at hboard
      exact hboard
  | some hcols hrows =>
    simp only [Ledger.grow, Option.getD_some]
    rw [if_pos ⟨max_pos cols hcols, max_pos rows hrows⟩]
    exact .some (b := b.grow cols rows) (max_pos cols hcols) (max_pos rows hrows)

/-- What a ledger says of a world is so. -/
structure Accounts (l : Ledger) (w : World) : Prop where
  live : l.live = w.scene.ids
  declared : ∀ code ∈ l.sprites, Sprite.Declared w.sprites code.toList
  board : SameBoard l.board w.board
  readable : ∀ id ∈ w.scene.ids, TokenId.Readable id.stem

namespace Accounts

variable {l : Ledger} {w : World}

theorem empty : Accounts .empty .empty where
  live := rfl
  declared := by simp [Ledger.empty]
  board := .none rfl rfl
  readable := by simp [World.empty, Scene.ids, Scene.empty]

theorem congr (h : Accounts l w) {w' : World} (ids : w'.scene.ids = w.scene.ids)
    (sprites : w'.sprites = w.sprites) (cols : w'.board.cols = w.board.cols)
    (rows : w'.board.rows = w.board.rows) : Accounts l w' where
  live := h.live.trans ids.symm
  declared := by
    rw [sprites]
    exact h.declared
  board := h.board.congr cols rows
  readable := by
    rw [ids]
    exact h.readable

/-! ## Look-up -/

/-- A code that the ledger knows has a definition. -/
theorem resolve?_isSome (h : Accounts l w) {code : String} (hascii : Text.IsAscii code)
    (hknown : l.knows code = true) : (Sprite.resolve? w.sprites code).isSome := by
  rcases Bool.or_eq_true_iff.mp hknown with hdeclared | harchetype
  · have hcode := h.declared _ (List.contains_iff_mem.mp hdeclared)
    rw [Text.toList_lowered hascii] at hcode
    exact Sprite.resolve?_of_declared hcode
  · exact Sprite.resolve?_of_archetype w.sprites harchetype

/-- A token that the ledger has is found by its id. -/
theorem resolve?_of_hasToken (h : Accounts l w) {reference : String}
    (hlive : l.hasToken reference = true) (byBeginning : Bool) :
    ∃ id ∈ w.scene.ids, id.text = reference ∧ w.resolve? byBeginning reference = some id := by
  obtain ⟨id, hid, htext⟩ := List.any_eq_true.mp hlive
  rw [h.live] at hid
  have htext : id.text = reference := beq_iff_eq.mp htext
  refine ⟨id, hid, htext, ?_⟩
  have hread : TokenId.ofText? reference = some id := by
    rw [← htext]
    exact TokenId.ofText?_text (h.readable id hid)
  have hexact : ((TokenId.ofText? reference).filter fun id => (w.scene.token? id).isSome) =
      some id := by
    rw [hread]
    exact Option.filter_some_pos (p := fun id => (w.scene.token? id).isSome)
      (Scene.token?_isSome_iff.mpr hid)
  rw [World.resolve?, hexact]
  rfl

theorem knows_of_place {code : String} {cells : List Cell}
    (hclean : (step l (.place code cells)).2 = []) : l.knows code = true := by
  by_contra hknown
  dsimp only [step] at hclean
  rw [if_neg hknown] at hclean
  cases hclean

theorem knows_of_create {attrs : Attributes} {target : Target} {reference : String}
    (href : attrs.reference? = some reference)
    (hclean : (step l (.create attrs target)).2 = []) : l.knows reference = true := by
  by_contra hknown
  dsimp only [step, Lint.create] at hclean
  simp only [href] at hclean
  rw [if_pos (by simpa using hknown)] at hclean
  cases hclean

theorem hasToken_of_clean {references : List String} (hclean : l.unknownTokens references = [])
    {reference : String} (hmem : reference ∈ references) : l.hasToken reference = true := by
  have hnone := List.filter_eq_nil_iff.mp (List.map_eq_nil_iff.mp hclean) reference hmem
  simpa using hnone

theorem withToken_of_hasToken (h : Accounts l w) {reference : String}
    (hlive : l.hasToken reference = true) (rules : Rules) (f : TokenId → Step) :
    ∃ id ∈ w.scene.ids, id.text = reference ∧ w.withToken rules reference f = f id := by
  obtain ⟨id, hid, htext, hresolve⟩ := h.resolve?_of_hasToken hlive rules.byBeginning
  refine ⟨id, hid, htext, ?_⟩
  rw [World.withToken, hresolve]

/-! ## Steps of the world -/

theorem mint (h : Accounts l w) {reference stem : String} {sprite : Sprite} {sprites : List Sprite}
    (hresolve : Sprite.resolve? w.sprites reference = some (sprite, sprites))
    (hstem : TokenId.Readable stem) (attrs : Attributes) (cells : List Cell) :
    Accounts (l.mint stem cells.length)
      (World.spawn sprite stem attrs { w with sprites } cells).world := by
  obtain ⟨hboard, hsprites⟩ := World.spawn_frame sprite stem attrs { w with sprites } cells
  have hids := World.spawn_ids sprite stem attrs { w with sprites } cells
  refine ⟨?_, fun code hcode => ?_, ?_, fun id hid => ?_⟩
  · rw [hids, Ledger.mint, h.live]
  · rw [hsprites]
    exact Sprite.declared_of_resolve? (h.declared code hcode) hresolve
  · rw [hboard]
    exact h.board
  · rw [hids] at hid
    rcases Ledger.stem_of_mem_mintOn hid with hid | hid
    · exact h.readable id hid
    · rw [hid]
      exact hstem

theorem place (h : Accounts l w) {code : String} {cells : List Cell}
    (hplain : Plain (.place code cells)) (hclean : (step l (.place code cells)).2 = []) :
    Accounts (step l (.place code cells)).1 (w.place code cells).world ∧
      (w.place code cells).NamesKnown := by
  have hknown := knows_of_place hclean
  obtain ⟨⟨sprite, sprites⟩, hresolve⟩ :=
    Option.isSome_iff_exists.mp (h.resolve?_isSome (hplain.1 code List.mem_cons_self) hknown)
  have hstem := hplain.2 code List.mem_cons_self
  dsimp only [step]
  rw [if_pos hknown, World.place, hresolve]
  exact ⟨h.mint hresolve hstem ∅ cells, fun _ => World.spawn_skipped⟩

theorem create (h : Accounts l w) {attrs : Attributes} {target : Target}
    (hplain : Plain (.create attrs target)) (hclean : (step l (.create attrs target)).2 = []) :
    Accounts (step l (.create attrs target)).1 (w.create attrs target).world ∧
      (w.create attrs target).NamesKnown := by
  cases href : attrs.reference? with
  | none =>
    dsimp only [step, Lint.create] at hclean
    rw [href] at hclean
    cases hclean
  | some reference =>
    have hknown := knows_of_create href hclean
    obtain ⟨hascii, hstem⟩ := hplain.create href
    obtain ⟨⟨sprite, sprites⟩, hresolve⟩ :=
      Option.isSome_iff_exists.mp (h.resolve?_isSome hascii hknown)
    dsimp only [step, Lint.create] at hclean ⊢
    simp only [World.create, href, hresolve] at hclean ⊢
    rw [if_neg (by simp [hknown])] at hclean ⊢
    cases target with
    | cells cells => exact ⟨h.mint hresolve hstem attrs cells, fun _ => World.spawn_skipped⟩
    | all =>
      have hboard := h.board
      generalize l.board = board at hboard hclean ⊢
      cases hboard with
      | none hcols hrows => cases hclean
      | some hcols hrows =>
        have hcells : w.board.cells.length = w.board.cols.toNat * w.board.rows.toNat :=
          Board.length_cellsOf _ _
        have hne : w.board.cells.isEmpty = false := by
          rw [UInt32.lt_iff_toNat_lt] at hcols hrows
          have hpos : 0 < w.board.cells.length := by
            rw [hcells]
            exact Nat.mul_pos hcols hrows
          exact List.isEmpty_eq_false_iff.mpr (List.length_pos_iff.mp hpos)
        dsimp only
        rw [if_neg (by simp [hne])]
        have hmint := h.mint hresolve hstem attrs w.board.cells
        rw [hcells] at hmint
        exact ⟨hmint, fun _ => World.spawn_skipped⟩

theorem removed (h : Accounts l w) (hwf : w.scene.WellFormed) {id : TokenId} :
    Accounts { l with live := l.live.filter (·.text != id.text) }
      { w with scene := w.scene.remove id } := by
  have hids : (w.scene.remove id).ids = w.scene.ids.filter (· != id) := by
    rw [Scene.ids, hwf.tokens_remove id, Scene.ids, List.filter_map]
    rfl
  refine ⟨?_, h.declared, h.board, fun other hother => ?_⟩
  · dsimp only
    rw [hids, h.live]
    refine List.filter_congr fun other _ => ?_
    by_cases hsame : other = id
    · rw [hsame, bne_self_eq_false, bne_self_eq_false]
    · have hne : other.text ≠ id.text := fun htext => hsame (TokenId.text_injective htext)
      rw [bne_iff_ne.mpr hsame, bne_iff_ne.mpr hne]
  · dsimp only at hother
    rw [hids] at hother
    exact h.readable other (List.mem_filter.mp hother).1

theorem namesKnown_done (w : World) : (Step.done w).NamesKnown := fun _ hcause => by cases hcause

theorem withBoard (h : Accounts l w) {cols rows : UInt32}
    (hclean : (step l (.board cols rows)).2 = []) :
    Accounts (step l (.board cols rows)).1 { w with board := { w.board with cols, rows } } := by
  refine ⟨h.live, h.declared, ?_, h.readable⟩
  by_cases hzero : cols = 0 ∨ rows = 0
  · dsimp only [step] at hclean
    rw [if_pos hzero] at hclean
    cases hclean
  · obtain ⟨hcols, hrows⟩ := not_or.mp hzero
    exact .some (b := { w.board with cols, rows }) (UInt32.pos_iff_ne_zero.mpr hcols)
      (UInt32.pos_iff_ne_zero.mpr hrows)

theorem declare (h : Accounts l w) {code : String} {attrs : Attributes}
    (hplain : Plain (.spriteDef code attrs)) (hclean : (step l (.spriteDef code attrs)).2 = []) :
    Accounts (step l (.spriteDef code attrs)).1
      { w with sprites := Sprite.upsert w.sprites (.ofAttributes code attrs) } := by
  have hascii := hplain.1 code List.mem_cons_self
  by_cases hdeclared : l.declares code = true
  · dsimp only [step] at hclean
    rw [if_pos hdeclared] at hclean
    cases hclean
  · dsimp only [step]
    rw [if_neg hdeclared]
    refine ⟨h.live, fun x hx => ?_, h.board, h.readable⟩
    rcases List.mem_append.mp hx with hx | hx
    · exact Sprite.declared_upsert (h.declared x hx) _
    · rw [List.mem_singleton.mp hx, Text.toList_lowered hascii]
      exact Sprite.declared_upsert_self w.sprites (.ofAttributes code attrs)

theorem heightRows (h : Accounts l w) (rules : Rules) (lines : List String) :
    Accounts (step l (.heightRows lines)).1 (w.step rules (.heightRows lines)).world := by
  refine ⟨?_, ?_, ?_, h.readable⟩
  · dsimp only [step, Ledger.grow]
    split
    · exact h.live
    · exact h.live
  · dsimp only [step, Ledger.grow]
    split
    · exact h.declared
    · exact h.declared
  · exact (h.board.grow (Instruction.rowsExtent_cases lines)).congr rfl rfl

theorem heightRandom (h : Accounts l w) (rules : Rules) (seed : Option UInt64) (low high : Float) :
    Accounts l (w.heightRandom rules seed low high).world ∧
      (w.heightRandom rules seed low high).NamesKnown := by
  refine ⟨World.heightRandom_cases (P := Accounts l) h fun _ => h.congr rfl rfl rfl rfl, ?_⟩
  intro cause hcause
  unfold World.heightRandom at hcause
  split at hcause
  · cases hcause
    rfl
  · split at hcause
    · cases hcause
      rfl
    · cases hcause

theorem state (h : Accounts l w) (rules : Rules) {attrs : Attributes}
    (hclean : (step l (.state attrs)).2 = []) :
    Accounts l (w.state rules attrs).world ∧ (w.state rules attrs).NamesKnown := by
  dsimp only [step] at hclean
  rw [World.state]
  cases href : attrs.first? ["id", "token"] with
  | none => exact ⟨h, fun _ hcause => by cases hcause; rfl⟩
  | some reference =>
    rw [href] at hclean
    have hlive : l.hasToken reference = true := hasToken_of_clean hclean (by simp)
    obtain ⟨id, -, -, hstep⟩ := h.withToken_of_hasToken hlive rules _
    dsimp only
    rw [hstep]
    exact ⟨h.congr (map_updateFirst (by intro t; rfl) _) rfl rfl rfl, namesKnown_done _⟩

theorem move (h : Accounts l w) (rules : Rules) {reference : String} {route : Route}
    (hclean : (step l (.move reference route)).2 = []) :
    Accounts l (w.move rules reference route).world ∧
      (w.move rules reference route).NamesKnown := by
  have hlive : l.hasToken reference = true := hasToken_of_clean hclean (by simp)
  obtain ⟨id, hid, -, hstep⟩ := h.withToken_of_hasToken hlive rules _
  rw [World.move, hstep]
  obtain ⟨t, ht⟩ := Option.isSome_iff_exists.mp (Scene.token?_isSome_iff.mpr hid)
  rw [ht]
  dsimp only
  cases World.walkOf? t.position route with
  | none => exact ⟨h, fun _ hcause => by cases hcause; rfl⟩
  | some walk => exact ⟨h.congr rfl rfl rfl rfl, namesKnown_done _⟩

theorem attack (h : Accounts l w) (rules : Rules) {attacker target : String} {kind : AttackKind}
    {speed duration : Option Float}
    (hclean : (step l (.attack attacker target kind speed duration)).2 = []) :
    Accounts l (w.attack rules attacker target kind speed duration).world ∧
      (w.attack rules attacker target kind speed duration).NamesKnown := by
  have hattacker : l.hasToken attacker = true := hasToken_of_clean hclean (by simp)
  have htarget : l.hasToken target = true := hasToken_of_clean hclean (by simp)
  rw [World.attack]
  obtain ⟨source, -, -, hsource⟩ := h.withToken_of_hasToken hattacker rules _
  rw [hsource]
  obtain ⟨goal, -, -, hgoal⟩ := h.withToken_of_hasToken htarget rules _
  rw [hgoal]
  exact ⟨h.congr rfl rfl rfl rfl, namesKnown_done _⟩

theorem remove (h : Accounts l w) (hwf : w.scene.WellFormed) (rules : Rules) {reference : String}
    (hclean : (step l (.remove reference)).2 = []) :
    Accounts (step l (.remove reference)).1 (w.step rules (.remove reference)).world ∧
      (w.step rules (.remove reference)).NamesKnown := by
  have hlive : l.hasToken reference = true := hasToken_of_clean hclean (by simp)
  dsimp only [step, World.step]
  obtain ⟨id, -, htext, hstep⟩ := h.withToken_of_hasToken hlive rules _
  rw [hstep, ← htext]
  exact ⟨h.removed hwf, namesKnown_done _⟩

/-- An instruction without a fault is to the world what it is to the ledger, and names only what
there is. -/
theorem next (h : Accounts l w) (hwf : w.scene.WellFormed) (rules : Rules) {i : Instruction}
    (hplain : Plain i) (hclean : (step l i).2 = []) :
    Accounts (step l i).1 (w.step rules i).world ∧ (w.step rules i).NamesKnown := by
  cases i with
  | place code cells => exact h.place hplain hclean
  | create attrs target => exact h.create hplain hclean
  | board cols rows => exact ⟨h.withBoard hclean, namesKnown_done _⟩
  | spriteDef code attrs => exact ⟨h.declare hplain hclean, namesKnown_done _⟩
  | heightRows lines => exact ⟨h.heightRows rules lines, fun _ hcause => by cases hcause⟩
  | heightRandom seed min max => exact h.heightRandom rules seed min.value max.value
  | state attrs => exact h.state rules hclean
  | move reference route => exact h.move rules hclean
  | attack attacker target kind speed duration => exact h.attack rules hclean
  | remove reference => exact h.remove hwf rules hclean
  | clear scope =>
    cases scope with
    | tokens =>
      refine ⟨⟨rfl, h.declared, h.board, fun id hid => ?_⟩, namesKnown_done _⟩
      cases hid
    | all => exact ⟨.empty, namesKnown_done _⟩
  | reset => exact ⟨.empty, namesKnown_done _⟩
  | _ => exact ⟨h.congr rfl rfl rfl rfl, fun _ hcause => by cases hcause⟩

/-! ## Steps of the roster -/

variable {r : Roster}

theorem fighter?_of_hasToken (h : Accounts l w) (hmirrors : Mirrors w r) {reference : String}
    (hlive : l.hasToken reference = true) : ∃ f, r.fighter? reference = some f := by
  obtain ⟨id, -, -, hresolve⟩ := h.resolve?_of_hasToken hlive r.settings.byBeginning
  rw [hmirrors.resolve?_eq] at hresolve
  obtain ⟨f, hf, -⟩ := Option.map_eq_some_iff.mp hresolve
  exact ⟨f, hf⟩

theorem define_of_knows (h : Accounts l w) (hmirrors : Mirrors w r) {code : String}
    (hascii : Text.IsAscii code) (hknown : l.knows code = true) :
    ∃ found, r.define code = .ok found := by
  obtain ⟨⟨sprite, sprites⟩, hresolve⟩ :=
    Option.isSome_iff_exists.mp (h.resolve?_isSome hascii hknown)
  rw [hmirrors.sprites] at hresolve
  exact ⟨(sprite, { r with sprites }), by rw [Roster.define, hresolve]⟩

/-- Such an instruction is followed, or left out for another cause. -/
theorem roster_known (h : Accounts l w) (hmirrors : Mirrors w r) {i : Instruction}
    (hplain : Plain i) (hclean : (step l i).2 = []) {cause : Unfollowed}
    (hcause : r.step i = .error cause) : cause.isUnknown = false := by
  cases i with
  | place code cells =>
    have hascii := hplain.1 code List.mem_cons_self
    obtain ⟨found, hfound⟩ := h.define_of_knows hmirrors hascii (knows_of_place hclean)
    dsimp only [Roster.step] at hcause
    simp [hfound, bind, Except.bind, pure, Except.pure] at hcause
  | create attrs target =>
    dsimp only [Roster.step, Roster.create] at hcause
    cases href : attrs.reference? with
    | none =>
      rw [href] at hcause
      cases hcause
      rfl
    | some reference =>
      obtain ⟨found, hfound⟩ :=
        h.define_of_knows hmirrors (hplain.create href).1 (knows_of_create href hclean)
      simp [href, hfound, bind, Except.bind, pure, Except.pure] at hcause
  | move reference route =>
    have hlive : l.hasToken reference = true := hasToken_of_clean hclean (by simp)
    obtain ⟨f, hf⟩ := h.fighter?_of_hasToken hmirrors hlive
    dsimp only [Roster.step] at hcause
    simp only [Roster.change, hf] at hcause
    split at hcause
    · cases hcause
    · cases hcause
      rfl
  | state attrs =>
    dsimp only [step] at hclean
    dsimp only [Roster.step] at hcause
    cases href : attrs.first? ["id", "token"] with
    | none =>
      rw [href] at hcause
      cases hcause
      rfl
    | some reference =>
      rw [href] at hcause hclean
      have hlive : l.hasToken reference = true := hasToken_of_clean hclean (by simp)
      obtain ⟨f, hf⟩ := h.fighter?_of_hasToken hmirrors hlive
      simp [Roster.change, hf] at hcause
  | remove reference =>
    have hlive : l.hasToken reference = true := hasToken_of_clean hclean (by simp)
    obtain ⟨f, hf⟩ := h.fighter?_of_hasToken hmirrors hlive
    dsimp only [Roster.step] at hcause
    simp [hf] at hcause
  | initiative value ids =>
    cases value with
    | none => cases hcause
    | some value => cases hcause
  | clear scope =>
    cases scope with
    | tokens => cases hcause
    | all => cases hcause
  | _ => cases hcause

end Accounts

/-! ## Lists -/

/-- The ledger after a list. -/
def ledgerAfter (l : Ledger) (instructions : List Instruction) : Ledger :=
  instructions.foldl (fun l i => (step l i).1) l

theorem checkFrom_cons_eq_nil {l : Ledger} {n : Nat} {i : Instruction}
    {rest : List Instruction} (h : checkFrom l n (i :: rest) = []) :
    (step l i).2 = [] ∧ checkFrom (step l i).1 (n + 1) rest = [] := by
  obtain ⟨hfaults, hrest⟩ := List.append_eq_nil_iff.mp h
  exact ⟨List.map_eq_nil_iff.mp hfaults, hrest⟩

/-- A run in which nothing is skipped because it names what there is not. -/
theorem run_known {rules : Rules} {l : Ledger} {w : World} {n : Nat} {batch : List Instruction}
    (h : Accounts l w) (hwf : w.scene.WellFormed) (hplain : ∀ i ∈ batch, Plain i)
    (hclean : checkFrom l n batch = []) (hroom : w.StaysRoomy rules batch) :
    Accounts (ledgerAfter l batch) (World.run rules w batch).1 ∧
      ∀ tag (cause : Skip), .skipped tag cause.message ∈ (World.run rules w batch).2 →
        cause.isUnknown = false := by
  induction batch generalizing l w n with
  | nil => exact ⟨h, fun _ _ hmem => by cases hmem⟩
  | cons i batch ih =>
    obtain ⟨hstep, hrest⟩ := checkFrom_cons_eq_nil hclean
    obtain ⟨hnext, hknown⟩ := h.next hwf rules (hplain i List.mem_cons_self) hstep
    rw [← World.after_eq_step] at hnext
    have hwf' := (World.change_after rules w i).wellFormed hwf hroom.head
    obtain ⟨haccounts, hevents⟩ := ih hnext hwf'
      (fun j hj => hplain j (List.mem_cons_of_mem _ hj)) hrest hroom.tail
    refine ⟨haccounts, fun tag cause hmem => ?_⟩
    rcases List.mem_append.mp hmem with hmem | hmem
    · obtain ⟨other, hother, -, hmessage⟩ := World.skipped_of_mem_stepInBatch hmem
      rw [Skip.isUnknown_of_message_eq hmessage]
      exact hknown other hother
    · exact hevents tag cause hmem

theorem append_right_inj {a b c : String} (h : a ++ b = a ++ c) : b = c := by
  have hlist := congrArg String.toList h
  rw [String.toList_append, String.toList_append] at hlist
  exact String.toList_inj.mp (List.append_cancel_left hlist)

/-- The roster follows such a run without leaving out what names something unknown. -/
theorem follow_known {rules : Rules} {l : Ledger} {w : World} {r : Roster} {n : Nat}
    {batch : List Instruction} (h : Accounts l w) (hwf : w.scene.WellFormed)
    (hmirrors : Mirrors w r) (hrules : rules.byBeginning = r.settings.byBeginning)
    (hplain : ∀ i ∈ batch, Plain i) (hclean : checkFrom l n batch = [])
    (hroom : w.StaysRoomy rules batch) {tag : String} {cause : Unfollowed}
    (hmem : .skipped tag ("combat: " ++ cause.message) ∈ (r.apply batch).2) :
    cause.isUnknown = false := by
  induction batch generalizing l w r n with
  | nil => cases hmem
  | cons i batch ih =>
    obtain ⟨hstep, hrest⟩ := checkFrom_cons_eq_nil hclean
    have hplain' := hplain i List.mem_cons_self
    obtain ⟨hnext, -⟩ := h.next hwf rules hplain' hstep
    rw [← World.after_eq_step] at hnext
    have hwf' := (World.change_after rules w i).wellFormed hwf hroom.head
    have hmirrors' := hmirrors.after hwf hrules i hroom.head
    have hlater : .skipped tag ("combat: " ++ cause.message) ∈ ((r.follow i).apply batch).2 →
        cause.isUnknown = false :=
      ih hnext hwf' hmirrors' (by rw [hrules, Roster.follow_settings])
        (fun j hj => hplain j (List.mem_cons_of_mem _ hj)) hrest hroom.tail
    rw [Roster.follow] at hlater
    rw [Roster.apply] at hmem
    cases hroster : r.step i with
    | ok r' =>
      rw [hroster] at hmem hlater
      exact hlater hmem
    | error other =>
      rw [hroster] at hmem hlater
      rcases List.mem_cons.mp hmem with hmem | hmem
      · obtain ⟨-, hmessage⟩ := Event.skipped.inj hmem
        rw [Unfollowed.isUnknown_of_message_eq (append_right_inj hmessage)]
        exact h.roster_known hmirrors hplain' hstep hroster
      · exact hlater hmem

/-- A list in which the check finds nothing, in plain spelling, names only definitions and tokens
that there are: neither the world nor the roster skips an instruction for an unknown one. In the end
the ledger, the world and the roster have the same tokens in the same order. -/
theorem check_sound {settings : Settings} {clockSeed : UInt64} {instructions : List Instruction}
    (hclean : check instructions = []) (hplain : ∀ i ∈ instructions, Plain i)
    (hroom : World.empty.StaysRoomy (.ofSettings settings clockSeed) instructions) :
    let world := World.empty.apply (.ofSettings settings clockSeed) instructions
    let roster := (Roster.empty settings).apply instructions
    (∀ tag reference, .skipped tag (Skip.unknownToken reference).message ∉ world.2 ∧
        .skipped tag (Skip.unknownDefinition reference).message ∉ world.2) ∧
      (∀ tag reference,
        .skipped tag ("combat: " ++ (Unfollowed.unknownToken reference).message) ∉ roster.2 ∧
          .skipped tag ("combat: " ++ (Unfollowed.unknownDefinition reference).message) ∉
            roster.2) ∧
      (ledgerAfter .empty instructions).live = world.1.scene.ids ∧
      world.1.scene.ids = roster.1.ids := by
  intro world roster
  have hwf : World.empty.scene.WellFormed := Scene.wellFormed_empty
  have hmirrors := Mirrors.empty settings
  obtain ⟨haccounts, hevents⟩ := run_known .empty hwf hplain hclean hroom
  have hids := (hmirrors.apply hwf rfl hroom).ids
  have hworld : ∀ tag (cause : Skip), cause.isUnknown = true →
      .skipped tag cause.message ∉ world.2 := by
    intro tag cause hunknown hmem
    rw [hevents tag cause (World.skipped_mem_run hmem)] at hunknown
    cases hunknown
  have hroster : ∀ tag (cause : Unfollowed), cause.isUnknown = true →
      .skipped tag ("combat: " ++ cause.message) ∉ roster.2 := by
    intro tag cause hunknown hmem
    rw [follow_known .empty hwf hmirrors rfl hplain hclean hroom hmem] at hunknown
    cases hunknown
  refine ⟨fun tag reference => ⟨hworld tag _ rfl, hworld tag _ rfl⟩,
    fun tag reference => ⟨hroster tag _ rfl, hroster tag _ rfl⟩, ?_, hids⟩
  have hscene : world.1.scene = _ := World.apply_scene _ _ instructions
  rw [haccounts.live, hscene]

/-- Two tokens of a declared code, one of them removed, and a boss from the archetypes. -/
theorem check_sound_boss :
    ∃ instructions, check instructions = [] ∧
      (ledgerAfter .empty instructions).live = [⟨"gob", 2⟩, ⟨"boss", 1⟩] ∧
      (World.empty.apply (.ofSettings {} 0) instructions).1.scene.ids =
        [⟨"gob", 2⟩, ⟨"boss", 1⟩] ∧
      ((Roster.empty {}).apply instructions).1.ids = [⟨"gob", 2⟩, ⟨"boss", 1⟩] := by
  let instructions : List Instruction :=
    [.board 3 2, .spriteDef "Gob" ∅, .place "gob" [⟨0, 0⟩, ⟨1, 0⟩],
      .create (.ofList [("id", "boss"), ("type", "Goblin")]) (.cells [⟨2, 1⟩]),
      .move "gob-1" (.to ⟨0, 1⟩), .attack "gob-2" "boss-1" .physical none none, .remove "gob-1"]
  have hclean : check instructions = [] := by decide +kernel
  have hplain : ∀ i ∈ instructions, Plain i := by decide +kernel
  have hroom : World.empty.StaysRoomy (.ofSettings {} 0) instructions := by decide +kernel
  have hlive : (ledgerAfter .empty instructions).live = [⟨"gob", 2⟩, ⟨"boss", 1⟩] := by
    decide +kernel
  obtain ⟨-, -, hworld, hroster⟩ := check_sound hclean hplain hroom
  rw [hlive] at hworld
  rw [← hworld] at hroster
  exact ⟨instructions, hclean, hlive, hworld.symm, hroster.symm⟩

end Lint

end Tabletop
