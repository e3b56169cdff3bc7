import Tabletop.Proofs.Reachable
import Tabletop.Proofs.Sprite

/-!
# The definitions of a world

Definitions come into a world in three ways: a script declares one, declares it again under a code
that may be spelled in other letters, or uses an archetype for the first time. Tokens remember their
definition by its id.

* `World.Defined`: no two definitions can be meant by one code, and every token has its definition
  among them.
* `World.Recast` lists what one instruction can do to definitions, and to what tokens are made from.
* `World.definitions_unambiguous`: all of this holds in every world that batches and ticks lead to.
-/

namespace Tabletop

namespace World

/-- The ids of the definitions that the tokens are made from, token by token. -/
def uses (w : World) : List String := w.scene.tokens.map (·.sprite)

structure Defined (w : World) : Prop where
  unambiguous : Sprite.Unambiguous w.sprites
  declared : ∀ use ∈ w.uses, Sprite.Declared w.sprites (Text.foldAscii use.toList)

theorem defined_empty : Defined .empty where
  unambiguous := Sprite.unambiguous_nil
  declared use huse := by cases huse

/-! ## Single instructions -/

/-- What one instruction can do to the definitions, and to what tokens are made from. A token that is
there afterwards and was not there before is made from a definition that has just been looked up. -/
inductive Recast (w : World) : World → Prop where
  | kept {w' : World} (sprites : w'.sprites = w.sprites) (uses : w'.uses ⊆ w.uses) : Recast w w'
  | declared (sprite : Sprite) (own : sprite.id = sprite.code) :
      Recast w { w with sprites := Sprite.upsert w.sprites sprite }
  | spawned {reference : String} {sprite : Sprite} {sprites : List Sprite}
      (found : Sprite.resolve? w.sprites reference = some (sprite, sprites)) (stem : String)
      (attrs : Attributes) (cells : List Cell) :
      Recast w (spawnOn sprite stem attrs { w with sprites } cells)
  | wiped : Recast w .empty

theorem Recast.same (w : World) : Recast w w := .kept rfl (List.Subset.refl _)

theorem uses_updateFirst (w : World) (p : Token Float → Bool) (attrs : Attributes) :
    ({ w with scene := { w.scene with
      tokens := updateFirst p (·.withAttributes attrs) w.scene.tokens } } : World).uses ⊆ w.uses := by
  have huses : (updateFirst p (·.withAttributes attrs) w.scene.tokens).map (·.sprite) = w.uses :=
    map_updateFirst (by intro t; rfl) w.scene.tokens
  intro use huse
  rw [← huses]
  exact huse

theorem uses_remove (w : World) (id : TokenId) :
    ({ w with scene := w.scene.remove id } : World).uses ⊆ w.uses := by
  have htokens : (w.scene.remove id).tokens.Sublist w.scene.tokens := by
    rw [Scene.remove]
    split
    · exact List.eraseP_sublist
    · exact List.Sublist.refl _
  exact (htokens.map _).subset

theorem recast_step (rules : Rules) (w : World) (i : Instruction) :
    Recast w (w.step rules i).world := by
  cases i with
  | spriteDef code attrs => exact .declared (.ofAttributes code attrs) rfl
  | place code cells => exact place_cases (.same w) fun _ _ found => .spawned found _ _ _
  | create attrs target =>
    exact create_cases (.same w) fun _ _ _ _ _ _ found => .spawned found _ _ _
  | heightRandom seed min max =>
    exact heightRandom_cases (.same w) fun _ => .kept rfl (List.Subset.refl _)
  | state attrs =>
    exact state_cases (.same w) fun id => .kept rfl (uses_updateFirst w (·.id == id) attrs)
  | move id route => exact move_cases (.same w) fun _ _ _ _ => .kept rfl (List.Subset.refl _)
  | attack attacker target kind speed duration =>
    exact attack_cases (.same w) fun _ _ _ _ _ _ _ => .kept rfl (List.Subset.refl _)
  | remove id => exact withToken_cases (.same w) fun id _ => .kept rfl (uses_remove w id)
  | clear scope =>
    cases scope with
    | tokens => exact .kept rfl (List.nil_subset _)
    | all => exact .wiped
  | reset => exact .wiped
  | _ => exact .kept rfl (List.Subset.refl _)

/-! ## What instructions and the clock keep -/

/-- The definition of a new token is one that the world knows. -/
theorem Defined.spawn {w : World} (h : Defined w) {sprite : Sprite} (hsprite : sprite ∈ w.sprites)
    (stem : String) (attrs : Attributes) (cells : List Cell) :
    Defined (spawnOn sprite stem attrs w cells) := by
  induction cells generalizing w with
  | nil => exact h
  | cons cell cells ih =>
    rw [spawnOn_cons]
    refine ih (w := w.addToken _) ⟨h.unambiguous, fun use huse => ?_⟩ hsprite
    have huses : (w.addToken (Token.spawn (w.nextId stem) sprite w.board.id cell attrs)).uses =
        w.uses ++ [sprite.id] := by
      simp [uses, addToken, Token.spawn, Token.withAttributes]
    rw [huses] at huse
    rcases List.mem_append.mp huse with huse | huse
    · exact h.declared use huse
    · rw [List.mem_singleton.mp huse, h.unambiguous.id_eq sprite hsprite]
      exact ⟨sprite, hsprite, rfl⟩

theorem Recast.defined {w w' : World} (change : Recast w w') (h : Defined w) : Defined w' := by
  cases change with
  | kept sprites uses =>
    refine ⟨sprites ▸ h.unambiguous, fun use huse => ?_⟩
    rw [sprites]
    exact h.declared use (uses huse)
  | declared sprite own =>
    exact ⟨h.unambiguous.upsert own, fun use huse =>
      Sprite.declared_upsert (h.declared use huse) sprite⟩
  | @spawned reference sprite sprites found stem attrs cells =>
    have hknown : Defined { w with sprites } :=
      ⟨h.unambiguous.resolve? found, fun use huse =>
        Sprite.declared_of_resolve? (h.declared use huse) found⟩
    exact hknown.spawn (Sprite.mem_of_resolve? found) stem attrs cells
  | wiped => exact defined_empty

theorem Defined.tick {w : World} (h : Defined w) (c : Clock Float) (seconds : Float) :
    Defined (w.tick c seconds).1 := by
  have huses : (w.tick c seconds).1.uses = w.uses :=
    c.advanceWalks_map _ (by intro t position; rfl) w.scene.tokens w.scene.walks
  exact ⟨h.unambiguous, fun use huse => h.declared use (huses ▸ huse)⟩

theorem Attained.defined {w : World} (h : Attained w) : Defined w := by
  refine h.of_steps defined_empty (fun rules w i hw => ?_) (fun w hw => ?_) fun w c seconds hw => ?_
  · rw [after_eq_step]
    exact (recast_step rules w i).defined hw
  · exact ⟨hw.unambiguous, hw.declared⟩
  · exact hw.tick c seconds

/-- In every world that batches and ticks lead to, no two definitions have codes that differ in the
case of letters alone, every definition has its code for an id, and a token's definition is found
under the id that the token remembers. -/
theorem definitions_unambiguous {w : World} (h : Attained w) :
    (w.sprites.Pairwise fun a b => Text.sameFolded a.code b.code = false) ∧
      (∀ s ∈ w.sprites, s.id = s.code) ∧
      ∀ t ∈ w.scene.tokens, ∃ s ∈ w.sprites,
        w.sprite? t.sprite = some s ∧ Text.sameFolded s.code t.sprite = true := by
  have hdefined := h.defined
  refine ⟨?_, hdefined.unambiguous.id_eq, fun t ht => ?_⟩
  · refine (List.pairwise_map.mp hdefined.unambiguous.distinct).imp fun {a b} hne => ?_
    exact Bool.eq_false_iff.mpr fun hsame => hne (Text.sameFolded_iff.mp hsame)
  · obtain ⟨s, hs, hletters⟩ := hdefined.declared t.sprite (List.mem_map_of_mem ht)
    have hsame := Text.sameFolded_iff.mpr hletters
    exact ⟨s, hs, hdefined.unambiguous.lookup?_eq_some_iff.mpr ⟨hs, hsame⟩, hsame⟩

/-- A goblin is placed, its definition is declared again in a small letter, and a wolf that has no
cell to stand on leaves its archetype behind all the same. -/
theorem definitions_unambiguous_redeclared :
    ∃ w : World, Attained w ∧ w.sprites.map (·.code) = ["g", "wolf"] ∧ w.uses = ["G", "g"] ∧
      (∀ s ∈ w.sprites, s.id = s.code) ∧
      ∀ t ∈ w.scene.tokens, ∃ s ∈ w.sprites, w.sprite? t.sprite = some s := by
  let batch : List Instruction :=
    [.spriteDef "G" ∅, .place "G" [⟨0, 0⟩], .spriteDef "g" ∅, .place "G" [⟨1, 0⟩], .place "Wolf" []]
  have hattained := (Attained.empty.apply (.ofSettings {} 0) batch).tick (.ofSettings {}) 0.5
  obtain ⟨-, hids, htokens⟩ := definitions_unambiguous hattained
  refine ⟨_, hattained, ?_, ?_, hids, fun t ht => ?_⟩
  · decide +kernel
  · decide +kernel
  · obtain ⟨s, hs, hfound, -⟩ := htokens t ht
    exact ⟨s, hs, hfound⟩

end World

end Tabletop
