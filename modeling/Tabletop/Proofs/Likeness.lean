import Mathlib.Data.List.Forall2
import Tabletop.Proofs.Session

/-!
# What a token and its fighter have in common

A token and its fighter come from the same definition and are given the same attributes, but each
reads them in its own way.

* `Related` carries a relation over from tokens and fighters to a world and its roster. A `Lasting`
  relation is one that no attributes of some kind break, and `Related.change` says that then no
  instruction breaks it.
* `Attributes.ReadsAlike`: the attributes from which both take the same name and the same faction;
  `readsAlike_iff`. The speed is the same in any case.
* `Session.Committed`: the sessions that batches lead to. Names and factions are the same there as
  long as all attributes read alike.
-/

namespace Tabletop

/-! ## Relations that last -/

section UpdateFirst

variable {α β : Type} {R : α → β → Prop} {l : List α} {m : List β}

theorem forall₂_updateFirst {p : α → Bool} {q : β → Bool} {f : α → α} {g : β → β}
    (hpq : ∀ a b, R a b → p a = q b) (hfg : ∀ a b, R a b → R (f a) (g b))
    (h : List.Forall₂ R l m) : List.Forall₂ R (updateFirst p f l) (updateFirst q g m) := by
  induction h with
  | nil => exact .nil
  | @cons a b l m hab h ih =>
    rw [updateFirst, updateFirst, hpq a b hab]
    split
    · exact .cons (hfg a b hab) h
    · exact .cons hab ih

theorem forall₂_updateFirst_right {q : β → Bool} {g : β → β} (hg : ∀ a b, R a b → R a (g b))
    (h : List.Forall₂ R l m) : List.Forall₂ R l (updateFirst q g m) := by
  induction h with
  | nil => exact .nil
  | @cons a b l m hab h ih =>
    rw [updateFirst]
    split
    · exact .cons (hg a b hab) h
    · exact .cons hab ih

end UpdateFirst

/-- A token and a fighter with one id that are related. -/
def Counterparts (R : Token Float → Fighter → Prop) (t : Token Float) (f : Fighter) : Prop :=
  t.id = f.id ∧ R t f

def Related (R : Token Float → Fighter → Prop) (w : World) (r : Roster) : Prop :=
  List.Forall₂ (Counterparts R) w.scene.tokens r.fighters

/-- A relation that begins with a token and its fighter, and that no attributes of a kind break. -/
structure Lasting (kind : Attributes → Prop) (R : Token Float → Fighter → Prop) : Prop where
  spawned : ∀ id sprite board cell hp attrs, kind attrs →
    R (Token.spawn id sprite board cell attrs) (Fighter.spawn id sprite cell hp attrs)
  altered : ∀ t f attrs, kind attrs → R t f → R (t.withAttributes attrs) (f.withAttributes attrs)
  sent : ∀ t f cell, R t f → R t { f with position := cell }

namespace Related

variable {kind : Attributes → Prop} {R : Token Float → Fighter → Prop} {w w' : World}
  {r r' : Roster}

theorem ids (h : Related R w r) : w.scene.ids = r.ids := by
  rw [Scene.ids, Roster.ids, ← List.forall₂_eq_eq_eq, List.forall₂_map_left_iff,
    List.forall₂_map_right_iff]
  exact h.imp fun _ _ hboth => hboth.1

theorem spawn (hR : Lasting kind R) (h : Related R w r) (sprite : Sprite) (stem : String)
    {attrs : Attributes} (hkind : kind attrs) (cells : List Cell) :
    Related R (World.spawnOn sprite stem attrs w cells) (r.spawn sprite stem attrs cells) := by
  induction cells generalizing w r with
  | nil => exact h
  | cons cell cells ih =>
    rw [World.spawnOn_cons, Roster.spawn, World.nextId, h.ids]
    refine ih (List.rel_append h (.cons ⟨rfl, ?_⟩ .nil))
    exact hR.spawned _ sprite _ cell _ attrs hkind

theorem change (hR : Lasting kind R) {i : Instruction} (hkind : kind i.given)
    (change : JointChange i w r w' r') (hwf : w.scene.WellFormed) (h : Related R w r) :
    Related R w' r' := by
  cases change with
  | kept tokens walks fighters =>
    rw [Related, tokens, fighters]
    exact h
  | spawned sprite stem sprites cells =>
    exact spawn (w := { w with sprites }) (r := { r with sprites }) hR h sprite stem hkind cells
  | altered id =>
    refine forall₂_updateFirst (fun t f hboth => ?_) (fun t f hboth => ?_) h
    · rw [hboth.1]
    · exact ⟨hboth.1, hR.altered t f _ hkind hboth.2⟩
  | sent walk cell ends =>
    exact forall₂_updateFirst_right (fun t f hboth => ⟨hboth.1, hR.sent t f cell hboth.2⟩) h
  | removed id =>
    have hfilter : List.Forall₂ (Counterparts R) (w.scene.tokens.filter (·.id != id))
        (r.fighters.filter (·.id != id)) :=
      List.rel_filter (fun t f hboth => by simp only [hboth.1]) h
    rw [← hwf.tokens_remove id] at hfilter
    exact hfilter
  | cleared => exact .nil
  | wiped => exact .nil

theorem run (hR : Lasting kind R) {rules : Rules} {batch : List Instruction}
    (hkind : ∀ i ∈ batch, kind i.given) (hmirrors : Mirrors w r) (hwf : w.scene.WellFormed)
    (hrules : rules.byBeginning = r.settings.byBeginning) (hroom : w.StaysRoomy rules batch)
    (h : Related R w r) : Related R (World.run rules w batch).1 (r.apply batch).1 := by
  rw [Roster.apply_eq_foldl]
  induction batch generalizing w r with
  | nil => exact h
  | cons i batch ih =>
    rw [World.run_cons, List.foldl_cons]
    have hchange := hmirrors.jointChange hrules i
    have hnext := hchange.mirrors hmirrors hwf hroom.head
    have hwf' := (World.change_after rules w i).wellFormed hwf hroom.head
    refine ih (fun j hj => hkind j (List.mem_cons_of_mem i hj)) hnext hwf' ?_ hroom.tail ?_
    · rw [hrules, Roster.follow_settings]
    · exact change hR (hkind i List.mem_cons_self) hchange hwf h

/-- A token and a fighter with the same id are counterparts. -/
theorem of_mem (h : Related R w r) (hdistinct : w.scene.ids.Nodup) {t : Token Float} {f : Fighter}
    (ht : t ∈ w.scene.tokens) (hf : f ∈ r.fighters) (hid : f.id = t.id) : R t f := by
  obtain ⟨n, hn, rfl⟩ := List.getElem_of_mem ht
  obtain ⟨n', hn', rfl⟩ := List.getElem_of_mem hf
  have hlength := h.length_eq
  obtain ⟨hsame, hrelated⟩ := List.Forall₂.get h hn (hlength ▸ hn)
  have hfighters : (r.fighters.map (·.id)).Nodup := by
    rw [h.ids] at hdistinct
    exact hdistinct
  have hplace : n' = n := by
    have hbound : n < (r.fighters.map (·.id)).length := by simpa [← hlength] using hn
    have hbound' : n' < (r.fighters.map (·.id)).length := by simpa using hn'
    have hget : (r.fighters.map (·.id))[n'] = (r.fighters.map (·.id))[n] := by
      rw [List.getElem_map, List.getElem_map]
      exact hid.trans hsame
    exact hfighters.getElem_inj_iff.mp hget
  subst hplace
  exact hrelated

end Related

/-! ## Readers of attributes -/

namespace Attributes

theorem first?_cons (attrs : Attributes) (key : String) (keys : List String) :
    attrs.first? (key :: keys) = (attrs.get? key).or (attrs.first? keys) := by
  rw [first?, List.findSome?_cons]
  cases attrs.get? key with
  | none => rfl
  | some value => rfl

/-- For a reader that makes nothing of an empty text it does not matter whether an empty value counts
as given. -/
theorem read?_eq_bind_first? {α : Type} {read : List Char → Option α} (hempty : read [] = none)
    (attrs : Attributes) (keys : List String) :
    attrs.read? keys read = (attrs.first? keys).bind fun s => read s.toList := by
  rw [read?, given?]
  cases attrs.first? keys with
  | none => rfl
  | some value =>
    by_cases hvalue : value = ""
    · rw [hvalue, Option.bind_some]
      exact hempty.symm
    · rw [Option.filter_some_pos (by simpa using hvalue)]

/-- Attributes from which a token and its fighter take the same name and the same faction: none of
the two is given as an empty text, and the faction is not given under another key alone. -/
structure ReadsAlike (attrs : Attributes) : Prop where
  name : attrs.get? "name" ≠ some ""
  faction : attrs.get? "faction" ≠ some ""
  otherKeys : attrs.get? "faction" = none → attrs.given? ["team", "side"] = none

theorem given?_of_get? {attrs : Attributes} {key : String} (keys : List String) {value : String}
    (h : attrs.get? key = some value) (hvalue : value ≠ "") :
    attrs.given? (key :: keys) = some value := by
  rw [given?, first?_cons, h, Option.some_or, Option.filter_some_pos (by simpa using hvalue)]

theorem given?_of_empty {attrs : Attributes} {key : String} (keys : List String)
    (h : attrs.get? key = some "") : attrs.given? (key :: keys) = none := by
  rw [given?, first?_cons, h]
  rfl

theorem given?_of_none {attrs : Attributes} {key : String} (keys : List String)
    (h : attrs.get? key = none) : attrs.given? (key :: keys) = attrs.given? keys := by
  rw [given?, first?_cons, h, Option.none_or, given?]

theorem ReadsAlike.given?_name {attrs : Attributes} (h : attrs.ReadsAlike) :
    attrs.given? ["name"] = attrs.get? "name" := by
  cases hname : attrs.get? "name" with
  | none => exact given?_of_none [] hname
  | some value =>
    refine given?_of_get? [] hname fun hvalue => ?_
    rw [hvalue] at hname
    exact h.name hname

theorem ReadsAlike.given?_faction {attrs : Attributes} (h : attrs.ReadsAlike) :
    attrs.given? Sprite.factionKeys = attrs.get? "faction" := by
  cases hfaction : attrs.get? "faction" with
  | none =>
    rw [Sprite.factionKeys, given?_of_none _ hfaction]
    exact h.otherKeys hfaction
  | some value =>
    refine given?_of_get? _ hfaction fun hvalue => ?_
    rw [hvalue] at hfaction
    exact h.faction hfaction

theorem get?_insert_id (attrs : Attributes) (reference : String) (key : String) (h : key ≠ "id") :
    (attrs.insert "id" reference).get? key = attrs.get? key := by
  rw [Dict.get?_insert, if_neg fun heq => h (Std.LawfulEqOrd.eq_of_compare heq)]

theorem readsAlike_insert_id (attrs : Attributes) (reference : String) :
    ReadsAlike (attrs.insert "id" reference) ↔ attrs.ReadsAlike := by
  have hname := attrs.get?_insert_id reference "name" (by decide)
  have hfaction := attrs.get?_insert_id reference "faction" (by decide)
  have hteam := attrs.get?_insert_id reference "team" (by decide)
  have hside := attrs.get?_insert_id reference "side" (by decide)
  have hother : given? (attrs.insert "id" reference) ["team", "side"] =
      attrs.given? ["team", "side"] := by
    simp only [given?, first?_cons, hteam, hside]
    rfl
  constructor
  · intro h
    exact ⟨hname ▸ h.name, hfaction ▸ h.faction,
      fun hnone => hother ▸ h.otherKeys (hfaction.trans hnone)⟩
  · intro h
    exact ⟨hname.symm ▸ h.name, hfaction.symm ▸ h.faction,
      fun hnone => hother.trans (h.otherKeys (hfaction.symm.trans hnone))⟩

end Attributes

/-- A token and its fighter have one name and one faction. -/
def SameLook (t : Token Float) (f : Fighter) : Prop := t.name = f.name ∧ t.faction = f.faction

theorem sameLook_withAttributes {attrs : Attributes} (h : attrs.ReadsAlike) {t : Token Float}
    {f : Fighter} (hlook : SameLook t f) :
    SameLook (t.withAttributes attrs) (f.withAttributes attrs) := by
  constructor
  · simp only [Token.withAttributes, Fighter.withAttributes, h.given?_name, hlook.1]
  · simp only [Token.withAttributes, Fighter.withAttributes, h.given?_faction, hlook.2]

theorem lasting_sameLook : Lasting Attributes.ReadsAlike SameLook where
  spawned id sprite board cell hp _ h := by
    have hstart : SameLook (Token.spawn id sprite board cell ∅) (Fighter.spawn id sprite cell hp ∅) :=
      ⟨rfl, rfl⟩
    exact sameLook_withAttributes h hstart
  altered _ _ _ h hlook := sameLook_withAttributes h hlook
  sent _ _ _ hlook := hlook

theorem speed_withAttributes {t : Token Float} {f : Fighter} (attrs : Attributes)
    (h : t.speed = f.speed) : (t.withAttributes attrs).speed = (f.withAttributes attrs).speed := by
  have hempty : Decimal.readUInt32? [] = none := rfl
  have hread := attrs.read?_eq_bind_first? hempty ["speed"]
  simp only [Token.withAttributes, Fighter.withAttributes, hread, h]

theorem lasting_speed : Lasting (fun _ => True) fun t f => t.speed = f.speed where
  spawned id sprite board cell hp attrs _ :=
    speed_withAttributes (t := Token.spawn id sprite board cell ∅)
      (f := Fighter.spawn id sprite cell hp ∅) attrs rfl
  altered _ _ attrs _ h := speed_withAttributes attrs h
  sent _ _ _ h := h

/-! ## Sessions -/

/-- Where both sides have the same ids in the same order, tokens and fighters with one id are
counterparts. -/
theorem Related.of_forall {R : Token Float → Fighter → Prop} {w : World} {r : Roster}
    (hids : w.scene.ids = r.ids)
    (h : ∀ t ∈ w.scene.tokens, ∀ f ∈ r.fighters, f.id = t.id → R t f) : Related R w r := by
  have hlength : w.scene.tokens.length = r.fighters.length := by
    simpa [Scene.ids, Roster.ids] using congrArg List.length hids
  refine List.forall₂_of_length_eq_of_get hlength fun n hn hn' => ?_
  have hid : (w.scene.tokens.get ⟨n, hn⟩).id = (r.fighters.get ⟨n, hn'⟩).id := by
    have hget := List.getElem_of_eq hids (i := n) (by simpa [Scene.ids] using hn)
    simpa [Scene.ids, Roster.ids] using hget
  exact ⟨hid, h _ (List.get_mem _ _) _ (List.get_mem _ _) hid.symm⟩

theorem World.after_ids_state (rules : Rules) (w : World) (attrs : Attributes) :
    (w.after rules (.state attrs)).scene.ids = w.scene.ids := by
  rw [after_eq_step]
  exact state_cases (P := fun w' => w'.scene.ids = w.scene.ids) rfl fun _ =>
    map_updateFirst (by intro t; rfl) _

namespace Console.Session

/-- Every token has the name and the faction of its fighter. -/
def SameLooks (s : Session) : Prop :=
  ∀ t ∈ s.world.scene.tokens, ∀ f ∈ s.roster.fighters, f.id = t.id →
    t.name = f.name ∧ t.faction = f.faction

theorem InStep.related_commit {kind : Attributes → Prop} {R : Token Float → Fighter → Prop}
    (hR : Lasting kind R) {s : Session} (h : InStep s) (around : Surroundings)
    {batch : List Instruction} (hkind : ∀ i ∈ batch, kind i.given)
    (room : s.world.StaysRoomy (.ofSettings s.settings around.clockSeed) batch)
    (hrelated : Related R s.world s.roster) :
    Related R (s.commit around batch).1.world (s.commit around batch).1.roster := by
  rw [Session.commit]
  split
  · exact hrelated
  · have hrules : (Rules.ofSettings s.settings around.clockSeed).byBeginning =
        s.roster.settings.byBeginning := by
      rw [h.settings]
      rfl
    have hrun := hrelated.run hR hkind h.mirrors h.wellFormed hrules room
    dsimp only
    rw [Related, World.apply_scene]
    exact hrun

/-- The sessions that batches lead to, with all the instructions in them, as long as no token ever
gets the last number that there is. -/
inductive Committed (settings : Settings) (token : RefreshToken) :
    List Instruction → Session → Prop where
  | start : Committed settings token [] (.start settings token)
  | commit {done : List Instruction} {s : Session} (around : Surroundings)
      (batch : List Instruction) (h : Committed settings token done s)
      (room : s.world.StaysRoomy (.ofSettings s.settings around.clockSeed) batch) :
      Committed settings token (done ++ batch) (s.commit around batch).1

namespace Committed

variable {settings : Settings} {token : RefreshToken} {done : List Instruction} {s : Session}

theorem reachable (h : Committed settings token done s) : Reachable s := by
  induction h with
  | start => exact .start settings token
  | commit around batch _ room ih => exact ih.commit around batch room

theorem related {kind : Attributes → Prop} {R : Token Float → Fighter → Prop}
    (hR : Lasting kind R) (h : Committed settings token done s)
    (hkind : ∀ i ∈ done, kind i.given) : Related R s.world s.roster := by
  induction h with
  | start => exact .nil
  | commit around batch h room ih =>
    have hbefore := ih fun i hi => hkind i (List.mem_append_left _ hi)
    exact h.reachable.inStep.related_commit hR around
      (fun i hi => hkind i (List.mem_append_right _ hi)) room hbefore

end Committed

theorem Reachable.sameLooks_iff {s : Session} (h : Reachable s) :
    s.SameLooks ↔ Related SameLook s.world s.roster :=
  ⟨fun hlooks => .of_forall h.inStep.mirrors.ids hlooks, fun hrelated _ ht _ hf hid =>
    hrelated.of_mem h.inStep.wellFormed.distinct ht hf hid⟩

/-! ## Attributes that do not read alike -/

/-- A session with one token, which its id leads to. -/
structure Alone (s : Session) (t : Token Float) (f : Fighter) : Prop where
  token : s.world.scene.tokens = [t]
  fighter : s.roster.fighters = [f]
  resolve : s.world.resolve? s.settings.byBeginning t.id.text = some t.id
  find : s.roster.fighter? t.id.text = some f
  sameId : f.id = t.id

theorem Alone.commit_state {s : Session} {t : Token Float} {f : Fighter} (h : Alone s t f)
    (around : Surroundings) {attrs : Attributes}
    (href : attrs.first? ["id", "token"] = some t.id.text) :
    (s.commit around [.state attrs]).1.world.scene.tokens = [t.withAttributes attrs] ∧
      (s.commit around [.state attrs]).1.roster.fighters = [f.withAttributes attrs] := by
  let rules := Rules.ofSettings s.settings around.clockSeed
  have hresolve : s.world.resolve? rules.byBeginning t.id.text = some t.id := h.resolve
  constructor
  · have hscene := World.apply_scene rules s.world [.state attrs]
    have hstate : (World.state rules s.world attrs).world.scene.tokens =
        [t.withAttributes attrs] := by
      rw [World.state, href]
      dsimp only
      rw [World.withToken, hresolve]
      simp [Step.done, h.token, updateFirst]
    rw [World.run_cons, World.after_eq_step] at hscene
    exact (congrArg Scene.tokens hscene).trans hstate
  · have happly := Roster.apply_eq_foldl s.roster [.state attrs]
    rw [List.foldl_cons, List.foldl_nil, Roster.follow_state href h.find, h.fighter] at happly
    refine (congrArg Roster.fighters happly).trans ?_
    simp [updateFirst]

/-- A session that nothing disturbs. -/
def calm : Surroundings := ⟨false, 0, ⟨0⟩, fun _ => .error .missing⟩

def loneBatch (faction : String) : List Instruction :=
  [.spriteDef "G" (.ofList [("faction", faction)]), .place "G" [⟨0, 0⟩]]

def lone (faction : String) : Session := ((Session.start {} ⟨0⟩).commit calm (loneBatch faction)).1

def loneSprite (faction : String) : Sprite := .ofAttributes "G" (.ofList [("faction", faction)])

def loneToken (faction : String) : Token Float :=
  .spawn ⟨"G", 1⟩ (loneSprite faction) "default" ⟨0, 0⟩ ∅

def loneFighter (faction : String) : Fighter := .spawn ⟨"G", 1⟩ (loneSprite faction) ⟨0, 0⟩ 10 ∅

theorem reachable_lone {faction : String} (h : faction ∈ ["neutral", "pc"]) :
    Reachable (lone faction) := by
  have hroom : ∀ faction ∈ ["neutral", "pc"],
      World.empty.StaysRoomy (.ofSettings {} 0) (loneBatch faction) := by decide +kernel
  exact (Reachable.start {} ⟨0⟩).commit calm (loneBatch faction) (hroom faction h)

theorem alone_lone {faction : String} (h : faction ∈ ["neutral", "pc"]) :
    Alone (lone faction) (loneToken faction) (loneFighter faction) where
  token := by
    revert faction
    decide +kernel
  fighter := by
    revert faction
    decide +kernel
  resolve := by
    revert faction
    decide +kernel
  find := by
    revert faction
    decide +kernel
  sameId := rfl

theorem loneToken_looks {faction : String} (h : faction ∈ ["neutral", "pc"]) :
    ((loneToken faction).name = "G" ∧ (loneFighter faction).name = "G") ∧
      (loneToken faction).faction = faction ∧ (loneFighter faction).faction = faction := by
  revert faction
  decide +kernel

/-- Two factions are enough to tell attributes that do not read alike. -/
theorem readsAlike_of_lone {attrs : Attributes}
    (h : ∀ faction ∈ ["neutral", "pc"],
      SameLook ((loneToken faction).withAttributes attrs)
        ((loneFighter faction).withAttributes attrs)) : attrs.ReadsAlike := by
  have hname : (attrs.given? ["name"]).getD "G" = (attrs.get? "name").getD "G" :=
    (h "neutral" List.mem_cons_self).1
  have hfaction : ∀ faction ∈ ["neutral", "pc"],
      ((attrs.given? Sprite.factionKeys).map Text.lowered).getD faction =
        ((attrs.get? "faction").map Text.lowered).getD faction := by
    intro faction hmem
    obtain ⟨-, htoken, hfighter⟩ := loneToken_looks hmem
    have hlook := (h faction hmem).2
    simp only [Token.withAttributes, Fighter.withAttributes, htoken, hfighter] at hlook
    exact hlook
  have hneutral := hfaction "neutral" List.mem_cons_self
  have hpc := hfaction "pc" (List.mem_cons_of_mem _ List.mem_cons_self)
  refine ⟨fun hempty => ?_, fun hempty => ?_, fun hnone => ?_⟩
  · rw [Attributes.given?_of_empty [] hempty, hempty] at hname
    exact absurd hname (by decide)
  · rw [Sprite.factionKeys, Attributes.given?_of_empty _ hempty, hempty] at hneutral
    exact absurd hneutral (by decide)
  · rw [Sprite.factionKeys, Attributes.given?_of_none _ hnone, hnone] at hneutral hpc
    cases hother : attrs.given? ["team", "side"] with
    | none => rfl
    | some value =>
      rw [hother] at hneutral hpc
      exact absurd (hneutral.symm.trans hpc) (by decide)

/-- Attributes read alike exactly if no `STATE` with them takes names or factions apart, in no
session and for no token. -/
theorem readsAlike_iff (attrs : Attributes) :
    attrs.ReadsAlike ↔ ∀ s, Reachable s → s.SameLooks → ∀ around reference,
      (s.commit around [.state (attrs.insert "id" reference)]).1.SameLooks := by
  constructor
  · intro halike s hs hlooks around reference
    have hstep := hs.inStep
    have hroom : s.world.StaysRoomy (.ofSettings s.settings around.clockSeed)
        [.state (attrs.insert "id" reference)] :=
      World.staysRoomy_singleton hstep.room (World.after_ids_state _ _ _)
    have hkind : ∀ i ∈ [Instruction.state (attrs.insert "id" reference)], i.given.ReadsAlike := by
      intro i hi
      rw [List.mem_singleton.mp hi]
      exact (attrs.readsAlike_insert_id reference).mpr halike
    rw [(hs.commit around _ hroom).sameLooks_iff]
    exact hstep.related_commit lasting_sameLook around hkind hroom (hs.sameLooks_iff.mp hlooks)
  · intro hkept
    refine (attrs.readsAlike_insert_id "G-1").mp (readsAlike_of_lone fun faction hmem => ?_)
    have halone := alone_lone hmem
    obtain ⟨⟨hname, hname'⟩, hfaction, hfaction'⟩ := loneToken_looks hmem
    have hlooks : (lone faction).SameLooks := by
      intro t ht f hf _
      rw [halone.token] at ht
      rw [halone.fighter] at hf
      rw [List.mem_singleton.mp ht, List.mem_singleton.mp hf, hname, hname', hfaction, hfaction']
      exact ⟨rfl, rfl⟩
    have hid : (loneToken faction).id.text = "G-1" :=
      show TokenId.text ⟨"G", 1⟩ = "G-1" by decide +kernel
    have href : Attributes.first? (attrs.insert "id" "G-1") ["id", "token"] =
        some (loneToken faction).id.text := by
      rw [hid, Attributes.first?_cons, Dict.get?_insert, if_pos Std.ReflOrd.compare_self]
      rfl
    obtain ⟨htokens, hfighters⟩ := halone.commit_state calm href
    refine hkept (lone faction) (reachable_lone hmem) hlooks calm "G-1" _ ?_ _ ?_ rfl
    · rw [htokens]
      exact List.mem_singleton_self _
    · rw [hfighters]
      exact List.mem_singleton_self _

/-! ## Agreement -/

/-- In every session that batches lead to, a token has the speed of its fighter, and it has its name
and its faction, too, as long as all attributes that were given read alike. Attributes that do not
read alike take a name or a faction apart in some session. -/
theorem attributes_agree {settings : Settings} {token : RefreshToken} {done : List Instruction}
    {s : Session} (h : Committed settings token done s) :
    (s.world.scene.ids = s.roster.ids ∧ ∀ t ∈ s.world.scene.tokens, ∀ f ∈ s.roster.fighters,
      f.id = t.id → t.speed = f.speed) ∧
      ((∀ i ∈ done, i.given.ReadsAlike) → s.SameLooks) ∧
      ∀ attrs : Attributes, attrs.ReadsAlike ↔ ∀ s', Reachable s' → s'.SameLooks →
        ∀ around reference,
          (s'.commit around [.state (attrs.insert "id" reference)]).1.SameLooks := by
  have hids := h.reachable.inStep.mirrors.ids
  have hdistinct := h.reachable.inStep.wellFormed.distinct
  refine ⟨⟨hids, fun t ht f hf hid => ?_⟩, fun halike => ?_, readsAlike_iff⟩
  · exact (h.related lasting_speed fun _ _ => trivial).of_mem hdistinct ht hf hid
  · exact h.reachable.sameLooks_iff.mpr (h.related lasting_sameLook halike)

/-- Two goblins, one of which changes sides. -/
theorem attributes_agree_turncoat :
    ∃ done s, Committed {} ⟨0⟩ done s ∧ (∀ i ∈ done, i.given.ReadsAlike) ∧
      s.world.scene.tokens.map (·.faction) = ["enemy", "pc"] ∧ s.SameLooks := by
  let batch : List Instruction :=
    [.create (.ofList [("type", "goblin"), ("name", "Grak"), ("speed", "")])
      (.cells [⟨0, 0⟩, ⟨1, 0⟩]),
      .state (.ofList [("id", "goblin-2"), ("faction", "PC"), ("team", "enemy")])]
  have hroom : World.empty.StaysRoomy (.ofSettings {} 0) batch := by decide +kernel
  have hstart : Committed {} ⟨0⟩ [] (.start {} ⟨0⟩) := .start
  have hcommitted := hstart.commit calm batch hroom
  have halike : ∀ i ∈ [] ++ batch, i.given.ReadsAlike := by
    intro i hi
    rcases List.mem_pair.mp hi with rfl | rfl
    · exact ⟨by decide +kernel, by decide +kernel, by decide +kernel⟩
    · exact ⟨by decide +kernel, by decide +kernel, by decide +kernel⟩
  have hlooks := (attributes_agree hcommitted).2.1 halike
  exact ⟨_, _, hcommitted, halike, by decide +kernel, hlooks⟩

/-- A faction that is given as a team reaches the token and not its fighter. -/
theorem attributes_disagree_team :
    ∃ done s, Committed {} ⟨0⟩ done s ∧ s.world.scene.ids = s.roster.ids ∧
      s.world.scene.tokens.map (·.faction) = ["pc"] ∧
      s.roster.fighters.map (·.faction) = ["enemy"] := by
  let batch : List Instruction :=
    [.create (.ofList [("type", "goblin"), ("team", "pc")]) (.cells [⟨0, 0⟩])]
  have hroom : World.empty.StaysRoomy (.ofSettings {} 0) batch := by decide +kernel
  have hstart : Committed {} ⟨0⟩ [] (.start {} ⟨0⟩) := .start
  have hcommitted := hstart.commit calm batch hroom
  exact ⟨_, _, hcommitted, by decide +kernel, by decide +kernel, by decide +kernel⟩

end Console.Session

end Tabletop
