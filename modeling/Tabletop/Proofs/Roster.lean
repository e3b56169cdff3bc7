import Tabletop.Proofs.Sprite
import Tabletop.Roster

/-!
# What instructions do to a roster

A roster follows the instructions of a batch one after the other, and leaves out those that it cannot
follow.

* `Roster.follow` is the roster after one instruction, and `apply_eq_foldl` says that a batch goes on
  from roster to roster.
* `Roster.Change` lists what one instruction can do to a roster; `change_follow`. What every
  instruction keeps is derived from it.
* `Roster.Heritable`: a property that fighters have from their definitions and do not lose. It holds
  throughout a roster (`Throughout.change`).
-/

namespace Tabletop

/-- The attributes that an instruction gives to tokens. -/
def Instruction.given : Instruction → Attributes
  | .create attrs _ | .state attrs => attrs
  | _ => ∅

/-- Whether an instruction gives an order of turns or takes the one that is there away. -/
def Instruction.settlesTurns : Instruction → Bool
  | .initiativeSet _ | .initiative _ _ | .clear _ | .reset => true
  | _ => false

theorem forall_mem_updateFirst {α : Type} {P : α → Prop} {p : α → Bool} {f : α → α} {l : List α}
    (h : ∀ a ∈ l, P a) (hf : ∀ a, P a → P (f a)) : ∀ a ∈ updateFirst p f l, P a := by
  induction l with
  | nil => exact h
  | cons b rest ih =>
    obtain ⟨hb, hrest⟩ := List.forall_mem_cons.mp h
    rw [updateFirst]
    split
    · exact List.forall_mem_cons.mpr ⟨hf b hb, hrest⟩
    · exact List.forall_mem_cons.mpr ⟨hb, ih hrest⟩

namespace Roster

/-- The roster after one instruction of a batch. One that cannot be followed is left out. -/
def follow (r : Roster) (i : Instruction) : Roster :=
  match r.step i with
  | .ok r' => r'
  | .error _ => r

theorem apply_eq_foldl (r : Roster) (batch : List Instruction) :
    (r.apply batch).1 = batch.foldl follow r := by
  induction batch generalizing r with
  | nil => rfl
  | cons i batch ih =>
    rw [apply, List.foldl_cons, follow]
    cases r.step i with
    | ok r' => exact ih r'
    | error cause => exact ih r

theorem spawn_view (sprite : Sprite) (stem : String) (attrs : Attributes) (r : Roster)
    (cells : List Cell) :
    ∃ fighters, r.spawn sprite stem attrs cells = { r with fighters } := by
  induction cells generalizing r with
  | nil => exact ⟨r.fighters, rfl⟩
  | cons cell cells ih =>
    rw [spawn]
    exact ih _

theorem nextTurn_cases (r : Roster) {P : Roster → Prop} (hsame : P r)
    (hturn : ∀ active rounds, P { r with active, rounds }) : P r.nextTurn := by
  unfold nextTurn
  split
  · exact hsame
  · split
    · exact hturn _ _
    · exact hturn _ _

theorem mem_of_fighter? {r : Roster} {reference : String} {f : Fighter}
    (h : r.fighter? reference = some f) : f ∈ r.fighters := by
  rw [fighter?, Option.orElse_eq_orElse, Option.orElse_eq_or, Option.or_eq_some_iff] at h
  rcases h with hexact | ⟨-, hbeginning⟩
  · obtain ⟨id, -, hfind⟩ := Option.bind_eq_some_iff.mp hexact
    exact List.mem_of_find?_eq_some hfind
  · split at hbeginning
    · exact List.mem_of_find?_eq_some hbeginning
    · cases hbeginning

/-! ## Single instructions -/

theorem follow_state {r : Roster} {attrs : Attributes} {reference : String} {f : Fighter}
    (href : attrs.first? ["id", "token"] = some reference)
    (hf : r.fighter? reference = some f) :
    r.follow (.state attrs) =
      { r with fighters := updateFirst (·.id == f.id) (·.withAttributes attrs) r.fighters } := by
  unfold follow step
  simp only [href, change, hf]

theorem follow_move {r : Roster} {reference : String} {route : Route} {cell : Cell} {f : Fighter}
    (hcell : route.destination? = some cell) (hf : r.fighter? reference = some f) :
    r.follow (.move reference route) =
      { r with
        fighters := updateFirst (·.id == f.id) ({ · with position := cell }) r.fighters } := by
  unfold follow step
  simp only [hcell, change, hf]

theorem follow_place {r : Roster} {code : String} {cells : List Cell} {sprite : Sprite}
    {sprites : List Sprite} (h : Sprite.resolve? r.sprites code = some (sprite, sprites)) :
    r.follow (.place code cells) = { r with sprites }.spawn sprite code ∅ cells := by
  unfold follow step
  simp only [define, h, bind, Except.bind, pure, Except.pure]

/-- The cells that a target stands for on the roster's board. -/
def cellsOf (r : Roster) : Target → List Cell
  | .cells cells => cells
  | .all => Board.cellsOf r.cols r.rows

theorem follow_create {r : Roster} {attrs : Attributes} {target : Target} {reference : String}
    {sprite : Sprite} {sprites : List Sprite} (href : attrs.reference? = some reference)
    (h : Sprite.resolve? r.sprites reference = some (sprite, sprites)) :
    r.follow (.create attrs target) =
      { r with sprites }.spawn sprite (attrs.stem?.getD reference) attrs (r.cellsOf target) := by
  unfold follow step
  simp only [create, href, define, h, bind, Except.bind, pure, Except.pure]
  cases target <;> rfl

/-- What one instruction can do to a roster. -/
inductive Change (i : Instruction) (r : Roster) : Roster → Prop where
  | kept : Change i r r
  | measured (grid : Grid) (cols rows : UInt32) : Change i r { r with grid, cols, rows }
  | declared (code : String) (attrs : Attributes) :
      Change i r { r with sprites := Sprite.upsert r.sprites (.ofAttributes code attrs) }
  | spawned {reference : String} {sprite : Sprite} {sprites : List Sprite}
      (found : Sprite.resolve? r.sprites reference = some (sprite, sprites)) (stem : String)
      (cells : List Cell) : Change i r ({ r with sprites }.spawn sprite stem i.given cells)
  | altered (id : TokenId) :
      Change i r
        { r with fighters := updateFirst (·.id == id) (·.withAttributes i.given) r.fighters }
  | sent (id : TokenId) (cell : Cell) :
      Change i r
        { r with fighters := updateFirst (·.id == id) ({ · with position := cell }) r.fighters }
  | removed (id : TokenId) : Change i r (r.remove id)
  | ranked (settles : i.settlesTurns = true) (values : List (String × Int32)) :
      Change i r (r.withValues values)
  | listed (settles : i.settlesTurns = true) (ids : List String) : Change i r (r.withOrder ids)
  | cleared (settles : i.settlesTurns = true) : Change i r r.withoutFighters
  | wiped (settles : i.settlesTurns = true) : Change i r (.empty r.settings)

theorem change_follow (r : Roster) (i : Instruction) : Change i r (r.follow i) := by
  cases i with
  | grid kind size => exact .measured kind r.cols r.rows
  | board cols rows => exact .measured r.grid cols rows
  | heightRows lines =>
    exact .measured r.grid (max r.cols (Instruction.rowsExtent lines).1)
      (max r.rows (Instruction.rowsExtent lines).2)
  | spriteDef code attrs => exact .declared code attrs
  | place code cells =>
    cases hfound : Sprite.resolve? r.sprites code with
    | none =>
      unfold follow step
      simp only [define, hfound, bind, Except.bind]
      exact .kept
    | some found =>
      rw [follow_place hfound]
      exact .spawned hfound code cells
  | create attrs target =>
    cases href : attrs.reference? with
    | none =>
      unfold follow step
      simp only [create, href]
      exact .kept
    | some reference =>
      cases hfound : Sprite.resolve? r.sprites reference with
      | none =>
        unfold follow step
        simp only [create, href, define, hfound, bind, Except.bind]
        exact .kept
      | some found =>
        rw [follow_create href hfound]
        exact .spawned hfound _ _
  | state attrs =>
    cases href : attrs.first? ["id", "token"] with
    | none =>
      unfold follow step
      simp only [href]
      exact .kept
    | some reference =>
      cases hf : r.fighter? reference with
      | none =>
        unfold follow step
        simp only [href, change, hf]
        exact .kept
      | some f =>
        rw [follow_state href hf]
        exact .altered f.id
  | move reference route =>
    cases hcell : route.destination? with
    | none =>
      unfold follow step
      simp only [hcell]
      exact .kept
    | some cell =>
      cases hf : r.fighter? reference with
      | none =>
        unfold follow step
        simp only [hcell, change, hf]
        exact .kept
      | some f =>
        rw [follow_move hcell hf]
        exact .sent f.id cell
  | remove reference =>
    unfold follow step
    dsimp only
    cases r.fighter? reference with
    | none => exact .kept
    | some f => exact .removed f.id
  | initiativeSet entries => exact .ranked rfl _
  | initiative value ids =>
    cases value with
    | none => exact .listed rfl ids
    | some value => exact .ranked rfl _
  | clear scope =>
    cases scope with
    | tokens => exact .cleared rfl
    | all => exact .wiped rfl
  | reset => exact .wiped rfl
  | _ => exact .kept

/-- The settings of a roster are never changed. -/
theorem Change.settings {i : Instruction} {r r' : Roster} (h : Change i r r') :
    r'.settings = r.settings := by
  cases h with
  | @spawned reference sprite sprites found stem cells =>
    obtain ⟨fighters, hview⟩ := spawn_view sprite stem i.given { r with sprites } cells
    rw [hview]
  | _ => rfl

theorem follow_settings (r : Roster) (i : Instruction) : (r.follow i).settings = r.settings :=
  (r.change_follow i).settings

theorem apply_settings (r : Roster) (batch : List Instruction) :
    (r.apply batch).1.settings = r.settings := by
  rw [apply_eq_foldl]
  induction batch generalizing r with
  | nil => rfl
  | cons i batch ih => rw [List.foldl_cons, ih, follow_settings]

/-! ## What definitions hand on -/

/-- A property that all definitions have, wherever they come from, and one that fighters have for
that reason. No change of a fighter takes it away. -/
structure Heritable (S : Sprite → Prop) (F : Fighter → Prop) : Prop where
  builtIn : ∀ a ∈ Archetype.library, S (.ofArchetype a)
  declared : ∀ code attrs, S (.ofAttributes code attrs)
  spawned : ∀ {sprite}, S sprite → ∀ id cell hp attrs, F (.spawn id sprite cell hp attrs)
  altered : ∀ {f}, F f → ∀ attrs, F (f.withAttributes attrs)
  sent : ∀ {f}, F f → ∀ cell, F { f with position := cell }

/-- All definitions of a roster have one property, and all fighters the other one. -/
structure Throughout (S : Sprite → Prop) (F : Fighter → Prop) (r : Roster) : Prop where
  sprites : ∀ s ∈ r.sprites, S s
  fighters : ∀ f ∈ r.fighters, F f

section Heritable

variable {S : Sprite → Prop} {F : Fighter → Prop} {r : Roster}

theorem throughout_empty (settings : Settings) : Throughout S F (.empty settings) :=
  ⟨List.forall_mem_nil _, List.forall_mem_nil _⟩

theorem Throughout.spawn (hinherited : Heritable S F) {sprite : Sprite} (hsprite : S sprite)
    (stem : String) (attrs : Attributes) (h : Throughout S F r) (cells : List Cell) :
    Throughout S F (r.spawn sprite stem attrs cells) := by
  induction cells generalizing r with
  | nil => exact h
  | cons cell cells ih =>
    rw [Roster.spawn]
    refine ih ⟨h.sprites, List.forall_mem_append.mpr ⟨h.fighters, ?_⟩⟩
    exact List.forall_mem_singleton.mpr (hinherited.spawned hsprite _ _ _ _)

/-- A look-up only brings definitions that are built in. -/
theorem Heritable.resolve? (hinherited : Heritable S F) {sprites sprites' : List Sprite}
    (h : ∀ s ∈ sprites, S s) {reference : String} {sprite : Sprite}
    (hfound : Sprite.resolve? sprites reference = some (sprite, sprites')) :
    ∀ s ∈ sprites', S s := by
  rw [Sprite.resolve?] at hfound
  split at hfound
  · cases hfound
    exact h
  · obtain ⟨a, ha, hpair⟩ := Option.map_eq_some_iff.mp hfound
    cases hpair
    exact Sprite.forall_mem_upsert h (hinherited.builtIn a (List.mem_of_find?_eq_some ha))

theorem Throughout.change (hinherited : Heritable S F) (h : Throughout S F r) {i : Instruction}
    {r' : Roster} (hchange : Change i r r') : Throughout S F r' := by
  cases hchange with
  | declared code attrs =>
    exact ⟨Sprite.forall_mem_upsert h.sprites (hinherited.declared code attrs), h.fighters⟩
  | @spawned reference sprite sprites found stem cells =>
    have hsprites := hinherited.resolve? h.sprites found
    have hknown : Throughout S F { r with sprites } := ⟨hsprites, h.fighters⟩
    have hsprite := hsprites sprite (Sprite.mem_of_resolve? found)
    exact hknown.spawn hinherited hsprite stem i.given cells
  | altered id =>
    exact ⟨h.sprites, forall_mem_updateFirst h.fighters fun f hf => hinherited.altered hf i.given⟩
  | sent id cell =>
    exact ⟨h.sprites, forall_mem_updateFirst h.fighters fun f hf => hinherited.sent hf cell⟩
  | removed id => exact ⟨h.sprites, fun f hf => h.fighters f (List.mem_of_mem_filter hf)⟩
  | cleared settles => exact ⟨h.sprites, List.forall_mem_nil _⟩
  | wiped settles => exact throughout_empty r.settings
  | kept => exact h
  | measured grid cols rows => exact ⟨h.sprites, h.fighters⟩
  | ranked settles values => exact ⟨h.sprites, h.fighters⟩
  | listed settles ids => exact ⟨h.sprites, h.fighters⟩

end Heritable

end Roster

end Tabletop
