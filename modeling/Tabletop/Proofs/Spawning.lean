import Tabletop.Proofs.Board
import Tabletop.Proofs.Reachable

/-!
# New tokens

An instruction that spawns asks for one token on each of its cells, all with one stem. Each id is
given out in view of the tokens that are there by then, those of the same instruction among them.

* `TokenId.Highest` is the highest number that a stem has in use. `Lint.Ledger.mintOn_eq`: as long as
  the numbers last, the new ids have the ones that follow it, without a gap.
* `Instruction.spawning?` is what an instruction asks for on a board, and `World.step_spawning` what
  comes of it.
-/

namespace Tabletop

/-! ## Numbers in a row -/

namespace TokenId

/-- The highest number that a stem has in use; zero if it has none. -/
structure Highest (stem : String) (ids : List TokenId) (top : Nat) : Prop where
  atMost : ∀ id ∈ ids, id.stem = stem → id.number.toNat ≤ top
  taken : top = 0 ∨ ∃ id ∈ ids, id.stem = stem ∧ id.number.toNat = top

/-- Ids with the numbers that follow another one. -/
def following (stem : String) (top count : Nat) : List TokenId :=
  (List.range count).map fun k => ⟨stem, UInt32.ofNat (top + 1 + k)⟩

theorem following_succ (stem : String) (top count : Nat) :
    following stem top (count + 1) =
      ⟨stem, UInt32.ofNat (top + 1)⟩ :: following stem (top + 1) count := by
  rw [following, List.range_succ_eq_map, List.map_cons, List.map_map, following]
  congr 1
  refine List.map_congr_left fun k _ => ?_
  have hk : top + 1 + (k + 1) = top + 1 + 1 + k := by omega
  rw [Function.comp_apply, Nat.succ_eq_add_one, hk]

variable {stem : String} {ids : List TokenId} {top : Nat}

theorem Highest.toNat_highest (h : Highest stem ids top) : (highest stem ids).toNat = top := by
  have hle : ∀ id ∈ ids, id.stem = stem → id.number.toNat ≤ (highest stem ids).toNat :=
    fun _ hid hstem => le_highestFrom hid hstem
  have hmem : highest stem ids = 0 ∨ ∃ id ∈ ids, id.stem = stem ∧ id.number = highest stem ids :=
    highestFrom_mem stem 0 ids
  have hat : (highest stem ids).toNat ≤ top := by
    rcases hmem with hzero | ⟨id, hid, hstem, hnumber⟩
    · rw [hzero]
      exact Nat.zero_le _
    · rw [← hnumber]
      exact h.atMost id hid hstem
  rcases h.taken with rfl | ⟨id, hid, hstem, hnumber⟩
  · omega
  · have := hle id hid hstem
    omega

theorem Highest.next (h : Highest stem ids top) :
    next stem ids = ⟨stem, UInt32.ofNat (top + 1)⟩ := by
  rw [TokenId.next, ← h.toNat_highest, UInt32.ofNat_add, UInt32.ofNat_toNat]
  rfl

/-- The id that is given out next is the highest afterwards. -/
theorem Highest.append_next (h : Highest stem ids top) (hroom : top < Decimal.word32) :
    Highest stem (ids ++ [⟨stem, UInt32.ofNat (top + 1)⟩]) (top + 1) where
  atMost id hid hstem := by
    rcases List.mem_append.mp hid with hid | hid
    · exact Nat.le_succ_of_le (h.atMost id hid hstem)
    · rw [List.mem_singleton.mp hid, Decimal.toNat_ofNat_of_le hroom]
  taken := by
    refine .inr ⟨_, List.mem_append_right _ List.mem_cons_self, rfl, ?_⟩
    exact Decimal.toNat_ofNat_of_le hroom

theorem toNat_following {id : TokenId} {count : Nat} (hroom : top + count ≤ Decimal.word32)
    (hid : id ∈ following stem top count) : id.stem = stem ∧ top < id.number.toNat := by
  obtain ⟨k, hk, rfl⟩ := List.mem_map.mp hid
  have hk := List.mem_range.mp hk
  refine ⟨rfl, ?_⟩
  rw [Decimal.toNat_ofNat_of_le (by omega)]
  omega

theorem nodup_following {count : Nat} (hroom : top + count ≤ Decimal.word32) :
    (following stem top count).Nodup := by
  refine List.Nodup.map_on (fun m hm n hn h => ?_) List.nodup_range
  have hm := List.mem_range.mp hm
  have hn := List.mem_range.mp hn
  have hnumber := congrArg (fun id : TokenId => id.number.toNat) h
  rw [Decimal.toNat_ofNat_of_le (by omega), Decimal.toNat_ofNat_of_le (by omega)] at hnumber
  omega

/-- What follows the highest number is not in use. -/
theorem Highest.disjoint_following (h : Highest stem ids top) {count : Nat}
    (hroom : top + count ≤ Decimal.word32) : ids.Disjoint (following stem top count) := by
  intro id hid hnew
  obtain ⟨hstem, hlt⟩ := toNat_following hroom hnew
  have hle := h.atMost id hid hstem
  omega

end TokenId

/-- New ids take the numbers that follow the highest one, without a gap. -/
theorem Lint.Ledger.mintOn_eq {stem : String} {ids : List TokenId} {top count : Nat}
    (h : TokenId.Highest stem ids top) (hroom : top + count ≤ Decimal.word32) :
    mintOn stem count ids = ids ++ TokenId.following stem top count := by
  induction count generalizing ids top with
  | zero => rw [mintOn, TokenId.following, List.range_zero, List.map_nil, List.append_nil]
  | succ count ih =>
    rw [mintOn, h.next, ih (h.append_next (by omega)) (by omega), TokenId.following_succ,
      List.append_assoc, List.singleton_append]

/-! ## What is asked for -/

def Target.cellsOn (b : Board) : Target → List Cell
  | .cells named => named
  | .all => b.cells

/-- The stem of the new ids, and a cell for each new token. -/
def Instruction.spawning? (b : Board) : Instruction → Option (String × List Cell)
  | .place code cells => some (code, cells)
  | .create attrs target =>
    attrs.reference?.map fun reference => (attrs.stem?.getD reference, target.cellsOn b)
  | _ => none

namespace World

/-! ## What comes of it -/

theorem spawnOn_scene (sprite : Sprite) (stem : String) (attrs : Attributes) (w : World)
    (cells : List Cell) :
    ∃ new, (spawnOn sprite stem attrs w cells).scene =
        { w.scene with tokens := w.scene.tokens ++ new } ∧
      new.map (·.position) = cells.map .ofCell := by
  induction cells generalizing w with
  | nil => exact ⟨[], by rw [List.append_nil]; rfl, rfl⟩
  | cons cell cells ih =>
    let token := Token.spawn (w.nextId stem) sprite w.board.id cell attrs
    obtain ⟨new, hscene, hcells⟩ := ih (w.addToken token)
    refine ⟨token :: new, ?_, ?_⟩
    · rw [spawnOn_cons, hscene, addToken, List.append_assoc, List.singleton_append]
    · rw [List.map_cons, List.map_cons, hcells, spawn_position]

/-- An instruction that is applied gives each of its cells a token. -/
theorem step_eq_spawnOn {rules : Rules} {w : World} {i : Instruction} {stem : String}
    {cells : List Cell} (hi : i.spawning? w.board = some (stem, cells))
    (hdone : (w.step rules i).skipped = none) :
    ∃ sprite attrs sprites,
      (w.step rules i).world = spawnOn sprite stem attrs { w with sprites } cells := by
  unfold Instruction.spawning? at hi
  split at hi
  · rename_i code cells'
    cases hi
    rw [step, place] at hdone ⊢
    split at hdone
    · cases hdone
    · rename_i sprite sprites hfound
      exact ⟨sprite, ∅, sprites, spawn_world _ _ _ _ _⟩
  · rename_i attrs target
    obtain ⟨reference, href, hi⟩ := Option.map_eq_some_iff.mp hi
    obtain ⟨rfl, rfl⟩ := Prod.mk.inj hi
    rw [step, create, href] at hdone ⊢
    dsimp only at hdone ⊢
    split at hdone
    · cases hdone
    · rename_i sprite sprites hfound
      refine ⟨sprite, attrs, sprites, ?_⟩
      cases target with
      | cells cells => exact spawn_world _ _ _ _ _
      | all =>
        dsimp only at hdone ⊢
        split at hdone
        · cases hdone
        · rename_i hcells
          rw [if_neg hcells]
          exact spawn_world _ _ _ _ _
  · cases hi

/-- Where ids are those of one token each and the numbers last, an instruction that spawns and is
applied adds one token for each of its cells, in their order: it stands on its cell, and its id has
the next number after the highest one that the stem has in use. For a whole board these cells are all
there are, each of them once, row after row. The tokens that were there, walks, effects and board are
the same. -/
theorem step_spawning {rules : Rules} {w : World} {i : Instruction} {stem : String}
    {cells : List Cell} {top : Nat} (hdistinct : w.scene.ids.Nodup)
    (hi : i.spawning? w.board = some (stem, cells)) (hdone : (w.step rules i).skipped = none)
    (htop : TokenId.Highest stem w.scene.ids top)
    (hroom : top + cells.length ≤ Decimal.word32) :
    let w' := (w.step rules i).world
    (∃ new, w'.scene.tokens = w.scene.tokens ++ new ∧
      new.map (·.id) = TokenId.following stem top cells.length ∧
      new.map (·.position) = cells.map .ofCell ∧
      ∀ t ∈ new, t.id ∉ w.scene.ids) ∧
    w'.scene.ids.Nodup ∧
    (∀ attrs, i = .create attrs .all → w.board.Enumerated cells) ∧
    w'.scene.walks = w.scene.walks ∧ w'.scene.effects = w.scene.effects ∧
    w'.lastEffect = w.lastEffect ∧ w'.board = w.board := by
  intro w'
  obtain ⟨sprite, attrs, sprites, hworld⟩ := step_eq_spawnOn hi hdone
  have hw' : w' = spawnOn sprite stem attrs { w with sprites } cells := hworld
  have hids : w'.scene.ids = w.scene.ids ++ TokenId.following stem top cells.length := by
    rw [hw', spawnOn_ids, Lint.Ledger.mintOn_eq htop hroom]
  obtain ⟨new, hscene, hcells⟩ := spawnOn_scene sprite stem attrs { w with sprites } cells
  have hnew : new.map (·.id) = TokenId.following stem top cells.length := by
    rw [hw', Scene.ids, hscene, List.map_append] at hids
    exact List.append_cancel_left hids
  have hdisjoint := htop.disjoint_following hroom
  refine ⟨⟨new, by rw [hw', hscene], hnew, hcells, fun t ht hold => ?_⟩, ?_, ?_, ?_, ?_, ?_, ?_⟩
  · exact hdisjoint hold (hnew ▸ List.mem_map_of_mem ht)
  · rw [hids]
    exact hdistinct.append (TokenId.nodup_following hroom) hdisjoint
  · rintro attrs rfl
    obtain ⟨reference, -, hcells⟩ := Option.map_eq_some_iff.mp hi
    rw [← (Prod.mk.inj hcells).2]
    exact w.board.enumerated_cells
  · rw [hw', hscene]
  · rw [hw', hscene]
  · rw [hw']
    exact (spawnOn_effects sprite stem attrs { w with sprites } cells).2
  · rw [hw']
    exact (spawnOn_frame sprite stem attrs { w with sprites } cells).1

/-- The second and the third of four goblins are gone, and there is a hobgoblin with the stem `G-1`.
On a board of three by two cells there come six goblins more, and none of them fills the gap. -/
theorem step_spawning_gap :
    ∃ (rules : Rules) (w : World) (create : Instruction),
      w.scene.ids = [⟨"G", 1⟩, ⟨"G", 4⟩, ⟨"G-1", 1⟩] ∧ (w.step rules create).skipped = none ∧
      ∃ new, (w.step rules create).world.scene.tokens = w.scene.tokens ++ new ∧
        new.map (·.id) =
          [⟨"G", 5⟩, ⟨"G", 6⟩, ⟨"G", 7⟩, ⟨"G", 8⟩, ⟨"G", 9⟩, ⟨"G", 10⟩] ∧
        new.map (·.position) = [⟨0, 0⟩, ⟨1, 0⟩, ⟨2, 0⟩, ⟨0, 1⟩, ⟨1, 1⟩, ⟨2, 1⟩] ∧
        (w.step rules create).world.scene.ids.Nodup := by
  let rules : Rules := .ofSettings {} 0
  let batch : List Instruction :=
    [.board 3 2, .spriteDef "G" ∅, .spriteDef "G-1" ∅,
      .place "G" [⟨0, 0⟩, ⟨1, 0⟩, ⟨2, 0⟩, ⟨0, 1⟩], .place "G-1" [⟨2, 1⟩], .remove "G-2",
      .remove "G-3"]
  let create : Instruction := .create (.ofList [("type", "G")]) .all
  obtain ⟨w, hw⟩ : ∃ w, w = (World.empty.apply rules batch).1 := ⟨_, rfl⟩
  have hids : w.scene.ids = [⟨"G", 1⟩, ⟨"G", 4⟩, ⟨"G-1", 1⟩] := hw ▸ by decide +kernel
  have hcells : w.board.cells = [⟨0, 0⟩, ⟨1, 0⟩, ⟨2, 0⟩, ⟨0, 1⟩, ⟨1, 1⟩, ⟨2, 1⟩] :=
    hw ▸ by decide +kernel
  have hasked : create.spawning? w.board =
      some ("G", [⟨0, 0⟩, ⟨1, 0⟩, ⟨2, 0⟩, ⟨0, 1⟩, ⟨1, 1⟩, ⟨2, 1⟩]) := by
    rw [← hcells]
    rfl
  have hdone : (w.step rules create).skipped = none := hw ▸ by decide +kernel
  have htop : TokenId.Highest "G" w.scene.ids 4 := by
    rw [hids]
    exact ⟨by decide, .inr ⟨⟨"G", 4⟩, by decide, rfl, rfl⟩⟩
  obtain ⟨⟨new, htokens, hnew, hplaces, -⟩, hdistinct, -⟩ :=
    step_spawning (by rw [hids]; decide) hasked hdone htop (by decide)
  refine ⟨rules, w, create, hids, hdone, new, htokens, hnew.trans ?_, hplaces.trans ?_, hdistinct⟩
  · decide
  · decide +kernel

end World

end Tabletop
