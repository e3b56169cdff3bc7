import Tabletop.Proofs.CaughtUp
import Tabletop.Proofs.Shadows
import Tabletop.Proofs.Sprite

/-!
# Instructions that are skipped

An instruction that cannot be carried out is skipped, with the cause among the events of its batch.

* `Sprite.joining?`: the archetype that a look-up brings among the definitions.
* `World.skipped_leaves`: the world after an instruction that is skipped is the world before, and
  that archetype.
* `World.apply_of_exact`: where no instruction is skipped for an unknown token, it makes no
  difference whether tokens are also found by the beginning of their ids.
-/

namespace Tabletop

/-! ## Archetypes that join -/

namespace Sprite

theorem upsert_of_new {sprites : List Sprite} {sprite : Sprite}
    (h : ∀ s ∈ sprites, Text.sameFolded s.code sprite.code = false) :
    upsert sprites sprite = sprites ++ [sprite] := by
  induction sprites with
  | nil => rfl
  | cons s rest ih =>
    have hs := h s List.mem_cons_self
    rw [upsert, hs, if_neg Bool.false_ne_true, List.cons_append,
      ih fun s' hs' => h s' (List.mem_cons_of_mem s hs')]

/-- The archetype that joins the definitions when a reference is looked up. -/
def joining? (sprites : List Sprite) (reference : String) : Option Sprite :=
  match lookup? sprites reference with
  | some _ => none
  | none => (Archetype.find? reference).map ofArchetype

theorem joining?_of_resolve?_eq_none {sprites : List Sprite} {reference : String}
    (h : resolve? sprites reference = none) : joining? sprites reference = none := by
  unfold resolve? at h
  unfold joining?
  cases hfound : lookup? sprites reference with
  | some s => rfl
  | none =>
    rw [hfound] at h
    exact Option.map_eq_none_iff.mpr (Option.map_eq_none_iff.mp h)

/-- An archetype that joins goes to the end: it has the code that was looked up, and no definition
has that code. -/
theorem definitions_of_resolve? {sprites sprites' : List Sprite} {reference : String}
    {sprite : Sprite} (h : resolve? sprites reference = some (sprite, sprites')) :
    sprites' = sprites ++ (joining? sprites reference).toList := by
  unfold resolve? at h
  unfold joining?
  cases hfound : lookup? sprites reference with
  | some s =>
    rw [hfound] at h
    cases h
    exact (List.append_nil sprites).symm
  | none =>
    rw [hfound] at h
    obtain ⟨a, ha, hpair⟩ := Option.map_eq_some_iff.mp h
    obtain ⟨-, rfl⟩ := Prod.mk.inj hpair
    have hcode : Text.sameFolded a.id reference = true :=
      List.find?_some (p := fun a : Archetype => Text.sameFolded a.id reference) ha
    rw [ha]
    refine upsert_of_new fun s hs => Bool.eq_false_iff.mpr fun hsame => ?_
    have hnamed : Text.sameFolded s.code reference = true :=
      Text.sameFolded_iff.mpr
        ((Text.sameFolded_iff.mp hsame).trans (Text.sameFolded_iff.mp hcode))
    exact List.find?_eq_none.mp hfound s hs (by rw [isNamed, hnamed, Bool.true_or])

end Sprite

namespace World

/-! ## What a skipped instruction leaves -/

/-- The archetype that joins the definitions by an instruction that asks for it. -/
def newcomer? (w : World) : Instruction → Option Sprite
  | .place code _ => Sprite.joining? w.sprites code
  | .create attrs _ => attrs.reference?.bind (Sprite.joining? w.sprites)
  | _ => none

/-- The world with an archetype that joins. -/
def joinedBy (w : World) (newcomer : Option Sprite) : World :=
  { w with sprites := w.sprites ++ newcomer.toList }

theorem joinedBy_none (w : World) : w.joinedBy none = w := by
  rw [joinedBy, Option.toList_none, List.append_nil]

theorem joinedBy_eq_self_iff {w : World} {newcomer : Option Sprite} :
    w.joinedBy newcomer = w ↔ newcomer = none := by
  constructor
  · intro h
    have hsprites : w.sprites ++ newcomer.toList = w.sprites := congrArg World.sprites h
    exact Option.toList_eq_nil_iff.mp (List.append_right_eq_self.mp hsprites)
  · rintro rfl
    exact w.joinedBy_none

/-- If the step was a skip, it leaves an archetype that joins, and then it was for want of cells. -/
def LeavesOnly (w : World) (newcomer : Option Sprite) (s : Step) : Prop :=
  ∀ cause, s.skipped = some cause →
    s.world = w.joinedBy newcomer ∧
      (newcomer ≠ none → cause = .noBoard ∨ cause = .noCoordinates)

theorem leavesOnly_of_done {w : World} {newcomer : Option Sprite} {s : Step}
    (h : s.skipped = none) : w.LeavesOnly newcomer s := by
  intro cause hcause
  rw [h] at hcause
  cases hcause

theorem leavesOnly_skip (w : World) (cause : Skip) : w.LeavesOnly none (.skip w cause) :=
  fun _ _ => ⟨w.joinedBy_none.symm, fun h => absurd rfl h⟩

theorem leavesOnly_withToken {rules : Rules} {w : World} {reference : String}
    {f : TokenId → Step} (hf : ∀ id, w.LeavesOnly none (f id)) :
    w.LeavesOnly none (w.withToken rules reference f) := by
  rw [withToken]
  split
  · exact hf _
  · exact w.leavesOnly_skip _

/-- Where tokens are spawned, a definition has been looked up before. -/
theorem leavesOnly_spawn {w : World} {reference : String} {sprite : Sprite}
    {sprites : List Sprite} (h : Sprite.resolve? w.sprites reference = some (sprite, sprites))
    (stem : String) (attrs : Attributes) (cells : List Cell) :
    w.LeavesOnly (Sprite.joining? w.sprites reference)
      (spawn sprite stem attrs { w with sprites } cells) := by
  rw [spawn]
  split
  · intro cause hcause
    cases hcause
    rw [Sprite.definitions_of_resolve? h]
    exact ⟨rfl, fun _ => .inr rfl⟩
  · exact leavesOnly_of_done rfl

theorem leavesOnly_place (w : World) (code : String) (cells : List Cell) :
    w.LeavesOnly (Sprite.joining? w.sprites code) (w.place code cells) := by
  rw [place]
  split
  · rename_i hnone
    rw [Sprite.joining?_of_resolve?_eq_none hnone]
    exact w.leavesOnly_skip _
  · rename_i sprite sprites hfound
    exact leavesOnly_spawn hfound code ∅ cells

theorem leavesOnly_create (w : World) (attrs : Attributes) (target : Target) :
    w.LeavesOnly (w.newcomer? (.create attrs target)) (w.create attrs target) := by
  rw [create, newcomer?]
  cases attrs.reference? with
  | none => exact w.leavesOnly_skip _
  | some reference =>
    dsimp only [Option.bind_some]
    split
    · rename_i hnone
      rw [Sprite.joining?_of_resolve?_eq_none hnone]
      exact w.leavesOnly_skip _
    · rename_i sprite sprites hfound
      split
      · exact leavesOnly_spawn hfound _ attrs _
      · split
        · intro cause hcause
          cases hcause
          rw [Sprite.definitions_of_resolve? hfound]
          exact ⟨rfl, fun _ => .inl rfl⟩
        · exact leavesOnly_spawn hfound _ attrs _

theorem leavesOnly_step (rules : Rules) (w : World) (i : Instruction) :
    w.LeavesOnly (w.newcomer? i) (w.step rules i) := by
  cases i with
  | place code cells => exact w.leavesOnly_place code cells
  | create attrs target => exact w.leavesOnly_create attrs target
  | heightRandom seed min max =>
    unfold step heightRandom
    dsimp only
    split
    · exact w.leavesOnly_skip _
    · split
      · exact w.leavesOnly_skip _
      · exact leavesOnly_of_done rfl
  | state attrs =>
    dsimp only [step]
    rw [state]
    split
    · exact w.leavesOnly_skip _
    · exact leavesOnly_withToken fun id => leavesOnly_of_done rfl
  | move reference route =>
    refine leavesOnly_withToken fun id => ?_
    split
    · exact w.leavesOnly_skip _
    · split
      · exact w.leavesOnly_skip _
      · exact leavesOnly_of_done rfl
  | attack attacker target kind speed duration =>
    exact leavesOnly_withToken fun source => leavesOnly_withToken fun target =>
      leavesOnly_of_done rfl
  | remove reference => exact leavesOnly_withToken fun id => leavesOnly_of_done rfl
  | clear scope =>
    cases scope with
    | tokens => exact leavesOnly_of_done rfl
    | all => exact leavesOnly_of_done rfl
  | _ => exact leavesOnly_of_done rfl

/-- An instruction that is skipped leaves the world as it was, but for an archetype that it has
asked for and that was not among the definitions. It leaves one only if it then finds no cells. -/
theorem skipped_leaves {rules : Rules} {w : World} {i : Instruction} {cause : Skip}
    (h : (w.step rules i).skipped = some cause) :
    (w.step rules i).world = { w with sprites := w.sprites ++ (w.newcomer? i).toList } ∧
      ((w.step rules i).world = w ↔ w.newcomer? i = none) ∧
      (w.newcomer? i ≠ none → cause = .noBoard ∨ cause = .noCoordinates) := by
  obtain ⟨hworld, hcause⟩ := leavesOnly_step rules w i cause h
  refine ⟨hworld, ?_, hcause⟩
  rw [hworld]
  exact joinedBy_eq_self_iff

/-- More goblins without cells to stand on: the archetype has joined with the first one. -/
theorem skipped_leaves_nothing :
    let rules : Rules := .ofSettings {} 0
    let w := (World.empty.apply rules [.board 1 1, .place "goblin" [⟨0, 0⟩]]).1
    let i : Instruction := .create (.ofList [("type", "Goblin"), ("name", "Snik")]) (.cells [])
    (w.step rules i).skipped = some .noCoordinates ∧ w.sprites.map (·.code) = ["goblin"] ∧
      (w.step rules i).world = w := by
  intro rules w i
  have hskipped : (w.step rules i).skipped = some .noCoordinates := by decide +kernel
  obtain ⟨-, hsame, -⟩ := skipped_leaves hskipped
  exact ⟨hskipped, by decide +kernel, hsame.mpr (by decide +kernel)⟩

/-- A goblin for every cell of a board without cells: there is none, but its archetype is there. -/
theorem skipped_leaves_archetype :
    let s := World.empty.step (.ofSettings {} 0) (.create (.ofList [("type", "goblin")]) .all)
    s.skipped = some .noBoard ∧ s.world.sprites.map (·.code) = ["goblin"] ∧ s.world ≠ .empty := by
  decide +kernel

/-! ## Look-ups by the beginning of an id -/

end World

/-- Rules where tokens are also found by the beginning of their ids. -/
def Rules.lenient (rules : Rules) : Rules := { rules with byBeginning := true }

/-- The step was not skipped for an unknown token. -/
def Step.TokenKnown (s : Step) : Prop := ∀ reference, s.skipped ≠ some (.unknownToken reference)

namespace World

theorem resolve?_of_exact {w : World} {reference : String} {id : TokenId}
    (h : w.resolve? false reference = some id) : w.resolve? true reference = some id := by
  rw [resolve?_eq] at h
  rw [resolve?, h]
  rfl

section Lenient

variable {rules : Rules} {w : World}

theorem withToken_lenient (hexact : rules.byBeginning = false) {reference : String}
    {f g : TokenId → Step} (hknown : (w.withToken rules reference f).TokenKnown)
    (hfg : ∀ id, (f id).TokenKnown → g id = f id) :
    w.withToken rules.lenient reference g = w.withToken rules reference f := by
  unfold withToken at hknown ⊢
  rw [hexact] at hknown ⊢
  cases hid : w.resolve? false reference with
  | none =>
    rw [hid] at hknown
    exact absurd rfl (hknown reference)
  | some id =>
    rw [hid] at hknown
    have hlenient : w.resolve? rules.lenient.byBeginning reference = some id :=
      resolve?_of_exact hid
    rw [hlenient]
    exact hfg id hknown

theorem state_lenient (hexact : rules.byBeginning = false) {attrs : Attributes}
    (hknown : (w.state rules attrs).TokenKnown) :
    w.state rules.lenient attrs = w.state rules attrs := by
  unfold state at hknown ⊢
  cases href : attrs.first? ["id", "token"] with
  | none => rfl
  | some reference =>
    rw [href] at hknown
    exact withToken_lenient hexact hknown fun _ _ => rfl

theorem step_lenient (hexact : rules.byBeginning = false) {i : Instruction}
    (hknown : (w.step rules i).TokenKnown) : w.step rules.lenient i = w.step rules i := by
  cases i with
  | state attrs => exact state_lenient hexact hknown
  | move reference route =>
    exact withToken_lenient hexact hknown fun _ _ => rfl
  | attack attacker target kind speed duration =>
    exact withToken_lenient hexact hknown fun _ htarget =>
      withToken_lenient hexact htarget fun _ _ => rfl
  | remove reference =>
    exact withToken_lenient hexact hknown fun _ _ => rfl
  | clear scope =>
    cases scope with
    | tokens => rfl
    | all => rfl
  | _ => rfl

/-- The cause of a skip is among the events. -/
theorem mem_report {i : Instruction} {s : Step} {cause : Skip} (h : s.skipped = some cause) :
    .skipped i.tag cause.message ∈ report i s := by
  rw [report, h]
  exact List.mem_append_right _ List.mem_cons_self

theorem stepInBatch_lenient (hexact : rules.byBeginning = false) {i : Instruction}
    (hknown : ∀ tag reference,
      .skipped tag (Skip.unknownToken reference).message ∉ (stepInBatch rules w i).2) :
    stepInBatch rules.lenient w i = stepInBatch rules w i := by
  unfold stepInBatch at hknown ⊢
  split
  · rfl
  · rename_i hside
    rw [if_neg hside] at hknown
    rw [step_lenient hexact fun reference hskipped =>
      hknown i.tag reference (mem_report hskipped)]

theorem run_lenient (hexact : rules.byBeginning = false) {batch : List Instruction}
    (hknown : ∀ tag reference,
      .skipped tag (Skip.unknownToken reference).message ∉ (run rules w batch).2) :
    run rules.lenient w batch = run rules w batch := by
  induction batch generalizing w with
  | nil => rfl
  | cons i batch ih =>
    have hfirst := stepInBatch_lenient hexact fun tag reference hmem =>
      hknown tag reference (List.mem_append_left _ hmem)
    have hrest := ih (w := (stepInBatch rules w i).1) fun tag reference hmem =>
      hknown tag reference (List.mem_append_right _ hmem)
    rw [run, run, hfirst]
    dsimp only
    rw [hrest]

theorem apply_lenient (hexact : rules.byBeginning = false) {batch : List Instruction}
    (hknown : ∀ tag reference,
      .skipped tag (Skip.unknownToken reference).message ∉ (w.apply rules batch).2) :
    w.apply rules.lenient batch = w.apply rules batch := by
  unfold apply at hknown ⊢
  split
  · rfl
  · rename_i hne
    rw [if_neg hne] at hknown
    rw [run_lenient hexact fun tag reference hmem =>
      hknown tag reference (List.mem_append_left _ hmem)]

end Lenient

/-- A batch in which no instruction is skipped for an unknown token, as long as a token is found by
its whole id alone: it leads to the same world with the same events where tokens are also found by
the beginning of their ids, as long as no terrain is drawn by the clock. -/
theorem apply_of_exact (settings : Settings) (a b : UInt64) (w : World) {batch : List Instruction}
    (hseeded : ∀ i ∈ batch, i.isSeeded = true)
    (hknown : ∀ tag reference, .skipped tag (Skip.unknownToken reference).message ∉
      (w.apply (.ofSettings { settings with byBeginning := false } a) batch).2) :
    w.apply (.ofSettings { settings with byBeginning := true } b) batch =
      w.apply (.ofSettings { settings with byBeginning := false } a) batch := by
  rw [apply_eq_of_seeded b a w hseeded]
  exact apply_lenient rfl hknown

/-- The goblins `goblin-1-1` and `goblin-1`, in this order. The second one is sent out, hits the
first one and leaves, by an id that the other one's begins with. -/
theorem apply_of_exact_goblin :
    let batch : List Instruction :=
      [.board 2 1, .heightRandom (some 7) (.number 0.0) (.number 3.0), .spriteDef "goblin-1" ∅,
        .place "goblin-1" [⟨0, 0⟩], .place "goblin" [⟨1, 0⟩], .move "goblin-1" (.to ⟨0, 0⟩),
        .attack "goblin-1" "goblin-1-1" .physical none none, .remove "goblin-1"]
    (World.empty.apply (.ofSettings {} 1) batch).1.scene.ids = [⟨"goblin-1", 1⟩] ∧
      (World.empty.apply (.ofSettings {} 1) batch).2.filterMap Event.skipReason? = [] ∧
      World.empty.apply (.ofSettings { byBeginning := true } 2) batch =
        World.empty.apply (.ofSettings {} 1) batch := by
  intro batch
  have hnone : (World.empty.apply (.ofSettings {} 1) batch).2.filterMap Event.skipReason? = [] := by
    decide +kernel
  have hseeded : ∀ i ∈ batch, i.isSeeded = true := by decide
  refine ⟨by decide +kernel, hnone,
    apply_of_exact {} 1 2 .empty hseeded fun tag reference hmem => ?_⟩
  cases List.filterMap_eq_nil_iff.mp hnone _ hmem

end World

end Tabletop
