import Mathlib.Data.List.Infix
import Tabletop.Lint
import Tabletop.Proofs.Scene
import Tabletop.Proofs.TokenId
import Tabletop.World.Step

/-!
# What batches do to a world

A batch changes a world one instruction after the other. The laws here say what an instruction does
to the tokens and their walks, and so what a whole batch does.

* `World.after` is the world after one instruction, and `run_eq_foldl` says that a batch goes on
  from world to world. What comes of an instruction that is not skipped is said by `place_cases` and
  its like, and what one instruction can do to a scene is listed by `Change`.
* `World.StaysRoomy`: while a batch runs, no token ever gets the last number that there is.
* `World.wellFormed_apply`: such a batch leaves a well-formed scene well-formed.
* `World.skipped_of_mem_run`: which instruction is skipped where a batch reports it.
-/

namespace Tabletop

/-! ## Minting -/

namespace Lint

/-- The stems of the ids that an instruction gives out. -/
def stems : Instruction → List String
  | .place code _ => [code]
  | .create attrs _ => (attrs.reference?.map fun reference => attrs.stem?.getD reference).toList
  | _ => []

theorem Ledger.prefix_mintOn (stem : String) (count : Nat) (ids : List TokenId) :
    ids <+: mintOn stem count ids := by
  induction count generalizing ids with
  | zero => exact List.prefix_refl ids
  | succ count ih => exact (List.prefix_append ids _).trans (ih _)

theorem Ledger.stem_of_mem_mintOn {stem : String} {count : Nat} {ids : List TokenId} {id : TokenId}
    (h : id ∈ mintOn stem count ids) : id ∈ ids ∨ id.stem = stem := by
  induction count generalizing ids with
  | zero => exact .inl h
  | succ count ih =>
    rcases ih h with h | h
    · rcases List.mem_append.mp h with h | h
      · exact .inl h
      · rw [List.mem_singleton.mp h]
        exact .inr rfl
    · exact .inr h

end Lint

namespace World

/-! ## Resolving -/

theorem resolve?_mem {w : World} {byBeginning : Bool} {reference : String} {id : TokenId}
    (h : w.resolve? byBeginning reference = some id) : id ∈ w.scene.ids := by
  rw [resolve?, Option.orElse_eq_orElse, Option.orElse_eq_or, Option.or_eq_some_iff] at h
  rcases h with h | ⟨-, h⟩
  · obtain ⟨-, hlive⟩ := Option.filter_eq_some_iff.mp h
    exact Scene.token?_isSome_iff.mp hlive
  · split at h
    · exact List.mem_of_find?_eq_some h
    · cases h

theorem resolve?_text {w : World} {id : TokenId} (h : TokenId.Readable id.stem)
    (hid : id ∈ w.scene.ids) (byBeginning : Bool) : w.resolve? byBeginning id.text = some id := by
  have hlive : (w.scene.token? id).isSome = true := Scene.token?_isSome_iff.mpr hid
  rw [resolve?, TokenId.ofText?_text h, Option.filter_some_pos (by simpa using hlive)]
  rfl

theorem readable_of_resolve? {w : World} {reference : String} {id : TokenId}
    (h : w.resolve? false reference = some id) : TokenId.Readable id.stem := by
  rw [resolve?, Option.orElse_eq_orElse, Option.orElse_eq_or, Option.or_eq_some_iff] at h
  rcases h with h | ⟨-, h⟩
  · exact TokenId.readable_of_ofText? (Option.filter_eq_some_iff.mp h).1
  · cases h

/-! ## Spawning -/

/-- The world with one more token. -/
def addToken (w : World) (t : Token Float) : World :=
  { w with scene := { w.scene with tokens := w.scene.tokens ++ [t] } }

theorem spawn_id (id : TokenId) (sprite : Sprite) (board : String) (cell : Cell)
    (attrs : Attributes) : (Token.spawn id sprite board cell attrs).id = id := rfl

theorem spawn_position (id : TokenId) (sprite : Sprite) (board : String) (cell : Cell)
    (attrs : Attributes) : (Token.spawn id sprite board cell attrs).position = .ofCell cell := rfl

theorem spawnOn_cons (sprite : Sprite) (stem : String) (attrs : Attributes) (w : World)
    (cell : Cell) (cells : List Cell) :
    spawnOn sprite stem attrs w (cell :: cells) =
      spawnOn sprite stem attrs
        (w.addToken (Token.spawn (w.nextId stem) sprite w.board.id cell attrs)) cells := rfl

theorem addToken_ids (w : World) (t : Token Float) :
    (w.addToken t).scene.ids = w.scene.ids ++ [t.id] := by
  simp [addToken, Scene.ids]

theorem spawnOn_ids (sprite : Sprite) (stem : String) (attrs : Attributes) (w : World)
    (cells : List Cell) :
    (spawnOn sprite stem attrs w cells).scene.ids =
      Lint.Ledger.mintOn stem cells.length w.scene.ids := by
  induction cells generalizing w with
  | nil => rfl
  | cons cell cells ih => rw [spawnOn_cons, ih, addToken_ids, spawn_id]; rfl

/-- New tokens change nothing but the scene. -/
theorem spawnOn_frame (sprite : Sprite) (stem : String) (attrs : Attributes) (w : World)
    (cells : List Cell) :
    (spawnOn sprite stem attrs w cells).board = w.board ∧
      (spawnOn sprite stem attrs w cells).sprites = w.sprites := by
  induction cells generalizing w with
  | nil => exact ⟨rfl, rfl⟩
  | cons cell cells ih => exact ih (w.addToken _)

/-- A spawning without cells is skipped, which comes to the same. -/
theorem spawn_world (sprite : Sprite) (stem : String) (attrs : Attributes) (w : World)
    (cells : List Cell) :
    (spawn sprite stem attrs w cells).world = spawnOn sprite stem attrs w cells := by
  cases cells with
  | nil => rfl
  | cons cell cells => rfl

theorem spawn_frame (sprite : Sprite) (stem : String) (attrs : Attributes) (w : World)
    (cells : List Cell) :
    (spawn sprite stem attrs w cells).world.board = w.board ∧
      (spawn sprite stem attrs w cells).world.sprites = w.sprites := by
  rw [spawn_world]
  exact spawnOn_frame sprite stem attrs w cells

/-- Where the last number is not given out, every new token has an id of its own. -/
theorem nextId_not_mem {sprite : Sprite} {stem : String} {attrs : Attributes} {w : World}
    {cells : List Cell} (hroom : TokenId.HaveRoom (spawnOn sprite stem attrs w cells).scene.ids) :
    w.nextId stem ∉ w.scene.ids := by
  rw [spawnOn_ids] at hroom
  exact TokenId.next_not_mem (hroom.of_subset (Lint.Ledger.prefix_mintOn _ _ _).subset)

theorem wellFormed_spawnOn {sprite : Sprite} {stem : String} {attrs : Attributes} {w : World}
    {cells : List Cell} (h : w.scene.WellFormed)
    (hroom : TokenId.HaveRoom (spawnOn sprite stem attrs w cells).scene.ids) :
    (spawnOn sprite stem attrs w cells).scene.WellFormed := by
  induction cells generalizing w with
  | nil => exact h
  | cons cell cells ih =>
    have hnew := nextId_not_mem hroom
    rw [spawnOn_cons] at hroom ⊢
    exact ih (h.addToken hnew) hroom

theorem place_cases {w : World} {code : String} {cells : List Cell} {P : World → Prop}
    (hskip : P w)
    (hspawn : ∀ sprite sprites, Sprite.resolve? w.sprites code = some (sprite, sprites) →
      P (spawnOn sprite code ∅ { w with sprites } cells)) :
    P (w.place code cells).world := by
  rw [place]
  split
  · exact hskip
  · rename_i sprite sprites hfound
    rw [spawn_world]
    exact hspawn sprite sprites hfound

theorem create_cases {w : World} {attrs : Attributes} {target : Target} {P : World → Prop}
    (hskip : P w)
    (hspawn : ∀ stem ∈ Lint.stems (.create attrs target), ∀ reference sprite sprites cells,
      Sprite.resolve? w.sprites reference = some (sprite, sprites) →
      P (spawnOn sprite stem attrs { w with sprites } cells)) :
    P (w.create attrs target).world := by
  rw [create]
  split
  · exact hskip
  · rename_i reference href
    have hstem : attrs.stem?.getD reference ∈ Lint.stems (.create attrs target) := by
      simp [Lint.stems, href]
    split
    · exact hskip
    · rename_i sprite sprites hfound
      dsimp only
      split
      · rw [spawn_world]
        exact hspawn _ hstem reference _ _ _ hfound
      · split
        · exact hspawn _ hstem reference sprite sprites [] hfound
        · rw [spawn_world]
          exact hspawn _ hstem reference _ _ _ hfound

/-! ## Single instructions -/

/-- What a reference leads to is what it leads to for a live token, or nothing at all. -/
theorem withToken_cases {rules : Rules} {w : World} {reference : String} {f : TokenId → Step}
    {P : World → Prop} (hskip : P w) (hf : ∀ id ∈ w.scene.ids, P (f id).world) :
    P (w.withToken rules reference f).world := by
  rw [withToken]
  split
  · rename_i id hid
    exact hf id (resolve?_mem hid)
  · exact hskip

theorem state_cases {rules : Rules} {w : World} {attrs : Attributes} {P : World → Prop}
    (hskip : P w)
    (haltered : ∀ id, P { w with scene := { w.scene with
      tokens := updateFirst (·.id == id) (·.withAttributes attrs) w.scene.tokens } }) :
    P (w.state rules attrs).world := by
  rw [state]
  split
  · exact hskip
  · exact withToken_cases hskip fun id _ => haltered id

theorem walkOf?_eq_none_iff {position : Point Float} {route : Route} :
    walkOf? position route = none ↔ route.cells = [] := by
  match route with
  | .to cell => exact iff_of_false (Option.some_ne_none _) (List.cons_ne_nil cell [])
  | .waypoints [] => exact iff_of_true rfl rfl
  | .waypoints (cell :: cells) =>
    exact iff_of_false (Option.some_ne_none _) (List.cons_ne_nil cell cells)

theorem walkOf?_ahead {position : Point Float} {route : Route} {path : List (Point Float)}
    {index : Nat} (h : walkOf? position route = some (path, index)) : index < path.length := by
  unfold walkOf? at h
  split at h
  · cases h
    exact Nat.lt_succ_self 1
  · cases h
  · rename_i cells hne
    cases h
    cases cells with
    | nil => exact absurd rfl hne
    | cons c cells => exact Nat.succ_pos _

/-- The waypoints of a way to somewhere are cells. -/
theorem walkOf?_cells {position : Point Float} {route : Route} {path : List (Point Float)}
    {index : Nat} (h : walkOf? position route = some (path, index)) :
    ∀ q ∈ path.drop index, ∃ cell, q = .ofCell cell := by
  unfold walkOf? at h
  split at h
  · rename_i cell
    cases h
    intro q hq
    exact ⟨cell, List.mem_singleton.mp hq⟩
  · cases h
  · rename_i cells hne
    cases h
    intro q hq
    obtain ⟨cell, -, rfl⟩ := List.mem_map.mp hq
    exact ⟨cell, rfl⟩

theorem move_cases {rules : Rules} {w : World} {reference : String} {route : Route}
    {P : World → Prop} (hskip : P w)
    (hsent : ∀ walk : Walk Float, walk.token ∈ w.scene.ids → walk.index < walk.path.length →
      (∀ q ∈ walk.path.drop walk.index, ∃ cell, q = .ofCell cell) →
      P { w with scene := w.scene.setWalk walk }) :
    P (w.move rules reference route).world := by
  rw [move]
  refine withToken_cases hskip fun id hid => ?_
  split
  · exact hskip
  · split
    · exact hskip
    · rename_i path index hwalk
      exact hsent ⟨id, path, index, _⟩ hid (walkOf?_ahead hwalk) (walkOf?_cells hwalk)

theorem attack_cases {rules : Rules} {w : World} {attacker target : String} {kind : AttackKind}
    {speed duration : Option Float} {P : World → Prop} (hskip : P w)
    (hadded : ∀ source ∈ w.scene.ids, ∀ target ∈ w.scene.ids, ∀ name speed duration,
      P (w.addEffect name (.token source) (.token target) speed duration)) :
    P (w.attack rules attacker target kind speed duration).world :=
  withToken_cases hskip fun source hsource =>
    withToken_cases hskip fun target htarget => hadded source hsource target htarget _ _ _

/-- Random terrain changes heights alone. -/
theorem heightRandom_cases {rules : Rules} {w : World} {seed : Option UInt64} {low high : Float}
    {P : World → Prop} (hskip : P w) (hdrawn : ∀ heights, P (w.withHeights heights)) :
    P (w.heightRandom rules seed low high).world := by
  unfold heightRandom
  split
  · exact hskip
  · split
    · exact hskip
    · exact hdrawn _

/-- What one instruction can do to the tokens of a world and their walks. -/
inductive Change (i : Instruction) (w : World) : World → Prop where
  | kept {w' : World} (tokens : w'.scene.tokens = w.scene.tokens)
      (walks : w'.scene.walks = w.scene.walks) : Change i w w'
  | spawned (sprite : Sprite) (stem : String) (given : stem ∈ Lint.stems i) (attrs : Attributes)
      (sprites : List Sprite) (cells : List Cell) :
      Change i w (spawnOn sprite stem attrs { w with sprites } cells)
  | altered (id : TokenId) (attrs : Attributes) :
      Change i w { w with scene := { w.scene with
        tokens := updateFirst (·.id == id) (·.withAttributes attrs) w.scene.tokens } }
  | sent (walk : Walk Float) (live : walk.token ∈ w.scene.ids)
      (ahead : walk.index < walk.path.length)
      (cells : ∀ q ∈ walk.path.drop walk.index, ∃ cell, q = .ofCell cell) :
      Change i w { w with scene := w.scene.setWalk walk }
  | removed (id : TokenId) : Change i w { w with scene := w.scene.remove id }
  | cleared : Change i w { w with scene := w.scene.clearTokens }
  | wiped : Change i w .empty

theorem change_step (rules : Rules) (w : World) (i : Instruction) :
    Change i w (w.step rules i).world := by
  cases i with
  | place code cells =>
    exact place_cases (.kept rfl rfl) fun _ sprites _ =>
      .spawned _ _ List.mem_cons_self _ sprites _
  | create attrs target =>
    exact create_cases (.kept rfl rfl) fun _ hstem _ _ sprites _ _ =>
      .spawned _ _ hstem _ sprites _
  | heightRandom seed min max =>
    exact heightRandom_cases (.kept rfl rfl) fun _ => .kept rfl rfl
  | state attrs => exact state_cases (.kept rfl rfl) fun id => .altered id attrs
  | move id route => exact move_cases (.kept rfl rfl) .sent
  | attack attacker target kind speed duration =>
    exact attack_cases (.kept rfl rfl) fun _ _ _ _ _ _ _ => .kept rfl rfl
  | remove id => exact withToken_cases (.kept rfl rfl) fun id _ => .removed id
  | clear scope =>
    cases scope with
    | tokens => exact .cleared
    | all => exact .wiped
  | reset => exact .wiped
  | _ => exact .kept rfl rfl

/-- The world after one instruction of a batch. -/
def after (rules : Rules) (w : World) (i : Instruction) : World := (stepInBatch rules w i).1

/-- What is passed over in a batch would have changed nothing. -/
theorem after_eq_step (rules : Rules) (w : World) (i : Instruction) :
    w.after rules i = (w.step rules i).world := by
  cases hside : i.isSideChannel with
  | true =>
    rw [after, stepInBatch, if_pos hside]
    cases i <;> first | rfl | cases hside
  | false => rw [after, stepInBatch, if_neg (by simp [hside])]

theorem change_after (rules : Rules) (w : World) (i : Instruction) :
    Change i w (w.after rules i) := by
  rw [after_eq_step]
  exact change_step rules w i

theorem after_of_wipe (rules : Rules) (w : World) {i : Instruction} (h : i.wipesWorld = true) :
    w.after rules i = .empty := by
  unfold Instruction.wipesWorld at h
  split at h
  · rfl
  · rfl
  · cases h

theorem Change.wellFormed {i : Instruction} {w w' : World} (h : Change i w w')
    (hw : w.scene.WellFormed) (hroom : TokenId.HaveRoom w'.scene.ids) : w'.scene.WellFormed := by
  cases h with
  | kept tokens walks => exact hw.congr (by rw [Scene.ids, Scene.ids, tokens]) walks
  | spawned sprite stem given attrs sprites cells => exact wellFormed_spawnOn hw hroom
  | altered id attrs => exact hw.congr (map_updateFirst (by intro t; rfl) _) rfl
  | sent walk live ahead cells => exact hw.setWalk live ahead
  | removed id => exact hw.remove id
  | cleared => exact Scene.wellFormed_clearTokens _
  | wiped => exact Scene.wellFormed_empty

/-- A new token has a stem that the instruction gives out. -/
theorem Change.mem_ids {i : Instruction} {w w' : World} (h : Change i w w') {id : TokenId}
    (hid : id ∈ w'.scene.ids) : id ∈ w.scene.ids ∨ id.stem ∈ Lint.stems i := by
  cases h with
  | kept tokens walks =>
    rw [Scene.ids, tokens] at hid
    exact .inl hid
  | spawned sprite stem given attrs sprites cells =>
    rw [spawnOn_ids] at hid
    rcases Lint.Ledger.stem_of_mem_mintOn hid with hid | rfl
    · exact .inl hid
    · exact .inr given
  | altered id attrs =>
    rw [Scene.ids, map_updateFirst (by intro t; rfl)] at hid
    exact .inl hid
  | sent walk live ahead cells => exact .inl hid
  | removed gone =>
    rw [Scene.ids_remove] at hid
    exact .inl (List.mem_of_mem_erase hid)
  | cleared => cases hid
  | wiped => cases hid

/-! ## Batches -/

theorem run_cons (rules : Rules) (w : World) (i : Instruction) (batch : List Instruction) :
    (run rules w (i :: batch)).1 = (run rules (w.after rules i) batch).1 := rfl

theorem run_eq_foldl (rules : Rules) (w : World) (batch : List Instruction) :
    (run rules w batch).1 = batch.foldl (after rules) w := by
  induction batch generalizing w with
  | nil => rfl
  | cons i batch ih => rw [run_cons, ih, List.foldl_cons]

theorem run_append (rules : Rules) (w : World) (a b : List Instruction) :
    (run rules w (a ++ b)).1 = (run rules (run rules w a).1 b).1 := by
  simp only [run_eq_foldl, List.foldl_append]

/-- A run that begins with a wipe does not depend on the world that it begins in. -/
theorem run_of_wipe (rules : Rules) (w w' : World) {i : Instruction} (rest : List Instruction)
    (h : i.wipesWorld = true) : (run rules w (i :: rest)).1 = (run rules w' (i :: rest)).1 := by
  rw [run_cons, run_cons, after_of_wipe rules w h, after_of_wipe rules w' h]

theorem apply_of_ne_nil {rules : Rules} {w : World} {batch : List Instruction} (h : batch ≠ []) :
    (w.apply rules batch).1 =
      { (run rules w batch).1 with board := (run rules w batch).1.board.fillFlat } := by
  rw [apply, if_neg (by simpa using h)]

theorem apply_scene (rules : Rules) (w : World) (batch : List Instruction) :
    (w.apply rules batch).1.scene = (run rules w batch).1.scene := by
  cases batch with
  | nil => rfl
  | cons i batch => rw [apply_of_ne_nil (List.cons_ne_nil i batch)]

/-- The world that batches lead to, one after another. -/
def replay (rules : Rules) (batches : List (List Instruction)) : World :=
  batches.foldl (fun w batch => (w.apply rules batch).1) .empty

theorem replay_append (rules : Rules) (batches : List (List Instruction))
    (batch : List Instruction) :
    replay rules (batches ++ [batch]) = ((replay rules batches).apply rules batch).1 := by
  rw [replay, List.foldl_append]
  rfl

/-- No token gets the last number that there is, at no point of a batch. -/
def StaysRoomy (rules : Rules) (w : World) (batch : List Instruction) : Prop :=
  ∀ done, done <+: batch → TokenId.HaveRoom (run rules w done).1.scene.ids

theorem staysRoomy_iff {rules : Rules} {w : World} {batch : List Instruction} :
    w.StaysRoomy rules batch ↔
      ∀ done ∈ batch.inits, TokenId.HaveRoom (run rules w done).1.scene.ids := by
  simp only [StaysRoomy, List.mem_inits]

instance (rules : Rules) (w : World) (batch : List Instruction) :
    Decidable (w.StaysRoomy rules batch) := decidable_of_iff' _ staysRoomy_iff

theorem StaysRoomy.head {rules : Rules} {w : World} {i : Instruction} {batch : List Instruction}
    (h : w.StaysRoomy rules (i :: batch)) : TokenId.HaveRoom (w.after rules i).scene.ids :=
  h [i] (List.prefix_append [i] batch)

theorem StaysRoomy.tail {rules : Rules} {w : World} {i : Instruction} {batch : List Instruction}
    (h : w.StaysRoomy rules (i :: batch)) : (w.after rules i).StaysRoomy rules batch :=
  fun done hdone => h (i :: done) (List.cons_prefix_cons.mpr ⟨rfl, hdone⟩)

theorem wellFormed_run {rules : Rules} {w : World} {batch : List Instruction}
    (h : w.scene.WellFormed) (hroom : w.StaysRoomy rules batch) :
    (run rules w batch).1.scene.WellFormed := by
  induction batch generalizing w with
  | nil => exact h
  | cons i batch ih =>
    rw [run_cons]
    exact ih ((change_after rules w i).wellFormed h hroom.head) hroom.tail

theorem wellFormed_apply {rules : Rules} {w : World} {batch : List Instruction}
    (h : w.scene.WellFormed) (hroom : w.StaysRoomy rules batch) :
    (w.apply rules batch).1.scene.WellFormed :=
  apply_scene rules w batch ▸ wellFormed_run h hroom

/-! ## Reports -/

theorem skipped_of_mem_report {i : Instruction} {s : Step} {tag reason : String}
    (h : .skipped tag reason ∈ report i s) :
    ∃ cause, s.skipped = some cause ∧ tag = i.tag ∧ reason = cause.message := by
  rcases List.mem_append.mp h with h | h
  · obtain ⟨note, -, hnote⟩ := List.mem_map.mp h
    cases hnote
  · have h := List.mem_singleton.mp h
    split at h
    · rename_i cause hcause
      cases h
      exact ⟨cause, hcause, rfl, rfl⟩
    · cases h

theorem skipped_of_mem_stepInBatch {rules : Rules} {w : World} {i : Instruction}
    {tag reason : String} (h : .skipped tag reason ∈ (stepInBatch rules w i).2) :
    ∃ cause, (w.step rules i).skipped = some cause ∧ tag = i.tag ∧ reason = cause.message := by
  rw [stepInBatch] at h
  split at h
  · cases List.mem_singleton.mp h
  · exact skipped_of_mem_report h

/-- A skip that is reported is that of an instruction of the batch, in the world that it meets. -/
theorem skipped_of_mem_run {rules : Rules} {w : World} {batch : List Instruction}
    {tag reason : String} (h : .skipped tag reason ∈ (run rules w batch).2) :
    ∃ i ∈ batch, ∃ (w' : World) (cause : Skip),
      (w'.step rules i).skipped = some cause ∧ tag = i.tag ∧ reason = cause.message := by
  induction batch generalizing w with
  | nil => cases h
  | cons i batch ih =>
    rcases List.mem_append.mp h with h | h
    · exact ⟨i, List.mem_cons_self, w, skipped_of_mem_stepInBatch h⟩
    · obtain ⟨j, hj, hskipped⟩ := ih h
      exact ⟨j, List.mem_cons_of_mem i hj, hskipped⟩

/-- What a batch reports besides is no skip. -/
theorem skipped_mem_run {rules : Rules} {w : World} {batch : List Instruction}
    {tag reason : String} (h : .skipped tag reason ∈ (w.apply rules batch).2) :
    .skipped tag reason ∈ (run rules w batch).2 := by
  rw [apply] at h
  split at h
  · cases h
  · exact (List.mem_append.mp h).resolve_right fun h => nomatch List.mem_singleton.mp h

end World

end Tabletop
