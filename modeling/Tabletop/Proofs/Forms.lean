import Tabletop.Proofs.Readers
import Tabletop.Script.Directive

/-!
# Forms and what they ask for

* `Form.directives` are the readers with the words that they begin with. Where a word belongs to one
  of them only, the others need not be tried: `Form.front?_of_keyword`.
* `Form.reader` is the reader that a form comes from. The order in which the readers are tried has
  no part in it: `Form.reader_of_front?`.
* `Form.Asks` are the directives that a form can ask for; `Form.asks_of_ofForm?`.
-/

namespace Tabletop.Script.Form

/-! ## Keywords -/

/-- The directives with the words that they begin with, in the order in which they are tried. -/
def directives : List (List String × Reader Form) :=
  [(["BACKGROUND"], background?), (["MAP"], map?), (["INITIATIVE"], initiativeSet?),
    (["INITIATIVE"], initiative?), (["GRID"], grid?), (["BOARD"], board?),
    (["SPRITE"], spriteDef?), (["PLACE"], place?), (["CREATE"], create?),
    (["HEIGHT_RANDOM"], heightRandom?), (["HEIGHT_START"], heightStart?),
    (["HEIGHT_END", "END_HEIGHT"], heightEnd?), (["HEIGHT"], height?), (["ROADS"], roads?),
    (["STATE"], state?), (["MOVE"], move?), (["ATTACK"], attack?), (["EFFECT"], effect?),
    (["REMOVE"], removeHeightmap?), (["REMOVE"], remove?), (["CLEAR"], clear?), (["RESET"], reset?)]

theorem front?_eq (cs : List Char) : front? cs = directives.findSome? (·.2 cs) := by
  have hcons : ∀ (d : List String × Reader Form) (ds : List (List String × Reader Form)),
      (d :: ds).findSome? (·.2 cs) = (d.2 cs <|> ds.findSome? (·.2 cs)) := by
    intro d ds
    rw [List.findSome?_cons]
    cases d.2 cs with
    | none => rfl
    | some read => rfl
  simp only [front?, directives, hcons, List.findSome?_nil, Option.orElse_eq_orElse,
    Option.orElse_eq_or, Option.or_none]

theorem isIdentChar_of_directives :
    ∀ d ∈ directives, ∀ name ∈ d.1, ∀ c ∈ name.toList, isIdentChar c = true := by
  have hall : ∀ d ∈ directives, ∀ name ∈ d.1, name.toList.all isIdentChar = true := by decide
  exact fun d hd name hname => List.all_eq_true.mp (hall d hd name hname)

/-- A directive is read only behind one of its words. -/
theorem eq_none_of_directives {cs : List Char} :
    ∀ d ∈ directives, (∀ name ∈ d.1, keyword? name cs = none) → d.2 cs = none := by
  simp +contextual [directives, background?, map?, initiativeSet?, initiative?, grid?, board?,
    spriteDef?, place?, create?, heightRandom?, heightStart?, heightEnd?, height?, roads?, state?,
    move?, attack?, effect?, removeHeightmap?, remove?, clear?, reset?]

theorem findSome?_filter {α β : Type} {f : α → Option β} {p : α → Bool} {l : List α}
    (h : ∀ a ∈ l, p a = false → f a = none) : (l.filter p).findSome? f = l.findSome? f := by
  induction l with
  | nil => rfl
  | cons a l ih =>
    have hl := ih fun a' ha' => h a' (List.mem_cons_of_mem a ha')
    rw [List.filter_cons, List.findSome?_cons]
    cases hp : p a with
    | true => rw [if_pos rfl, List.findSome?_cons, hl]
    | false => rw [if_neg Bool.false_ne_true, hl, h a List.mem_cons_self hp]

/-- A word that only one directive begins with. -/
theorem front?_of_keyword {name : String} (names : List String) {p : Reader Form}
    (honly : directives.filter (name ∈ ·.1) = [(names, p)]) {cs rest : List Char}
    (h : keyword? name cs = some rest) : front? cs = p cs := by
  have hown : (names, p) ∈ directives.filter (name ∈ ·.1) := honly ▸ List.mem_singleton_self _
  obtain ⟨hdirective, hname⟩ := List.mem_filter.mp hown
  have hword := leadingWord_of_keyword?
    (isIdentChar_of_directives _ hdirective name (of_decide_eq_true hname)) h
  rw [front?_eq, ← findSome?_filter (p := fun d => decide (name ∈ d.1)), honly,
    List.findSome?_singleton]
  intro d hd hother
  refine eq_none_of_directives d hd fun other hmem => ?_
  refine keyword?_eq_none (isIdentChar_of_directives d hd other hmem) fun heq => ?_
  rw [String.toList_inj.mp (hword.symm.trans heq)] at hother
  exact of_decide_eq_false hother hmem

theorem read?_of_front? {line : List Char} {form : Form} (h : front? line = some (form, [])) :
    read? line = some form := by
  rw [read?, h]
  rfl

/-! ## Readers -/

/-- The reader that a form comes from. -/
def reader : Form → Reader Form
  | .background _ => background?
  | .map _ => map?
  | .initiativeSet _ => initiativeSet?
  | .initiative _ _ => initiative?
  | .grid _ _ => grid?
  | .board _ _ => board?
  | .spriteDef _ _ => spriteDef?
  | .place _ _ => place?
  | .create _ _ => create?
  | .heightRandom _ => heightRandom?
  | .heightStart => heightStart?
  | .heightEnd => heightEnd?
  | .height _ => height?
  | .roads _ => roads?
  | .state _ => state?
  | .move _ _ => move?
  | .attack _ _ _ _ => attack?
  | .effect _ _ _ => effect?
  | .removeHeightmap => removeHeightmap?
  | .remove _ => remove?
  | .clear _ => clear?
  | .reset => reset?

/-- What has been read, if anything, is a form of the reader `p`. -/
def Of (p : Reader Form) (read : Option (Form × List Char)) : Prop :=
  Yields (fun form => form.reader = p) read

theorem of_grid (cs : List Char) : Of grid? (grid? cs) := by
  refine .bind fun _ => .bind fun _ => ?_
  dsimp only
  split
  · exact .done rfl rfl
  · exact .done rfl rfl

theorem of_create (cs : List Char) : Of create? (create? cs) := by
  refine .bind fun _ => .bind fun _ => ?_
  dsimp only
  split
  · exact .done rfl rfl
  · exact .bind fun _ => .done rfl rfl

theorem of_initiative (cs : List Char) : Of initiative? (initiative? cs) :=
  .bind fun _ =>
    .orElse (.bind fun _ => .bind fun _ => .done rfl rfl) (.bind fun _ => .done rfl rfl)

/-- A form that has been read from `cs`, if one has, is what its own reader reads. -/
def Own (cs : List Char) (read : Option (Form × List Char)) : Prop :=
  ∀ form rest, read = some (form, rest) → form.reader cs = some (form, rest)

theorem Of.own {p : Reader Form} {cs : List Char} (h : Of p (p cs)) : Own cs (p cs) := by
  intro form rest hread
  rw [h form rest hread, hread]

theorem Own.orElse {cs : List Char} {first second : Option (Form × List Char)}
    (hfirst : Own cs first) (hsecond : Own cs second) : Own cs (first <|> second) := by
  cases first with
  | none => exact hsecond
  | some read => exact hfirst

theorem reader_of_front? {form : Form} {cs rest : List Char}
    (h : front? cs = some (form, rest)) : form.reader cs = some (form, rest) := by
  suffices hown : Own cs (front? cs) from hown form rest h
  refine .orElse (Of.own (p := background?) <| .bind fun _ => .bind fun _ => .done rfl rfl) ?_
  refine .orElse (Of.own (p := map?) <| .bind fun _ => .bind fun _ => .done rfl rfl) ?_
  refine .orElse (Of.own (p := initiativeSet?) <| .bind fun _ => .bind fun _ => .done rfl rfl) ?_
  refine .orElse (of_initiative cs).own ?_
  refine .orElse (of_grid cs).own ?_
  refine .orElse (Of.own (p := board?) <| .bind fun _ => .bind fun _ => .bind fun _ =>
    .bind fun _ => .done rfl rfl) ?_
  refine .orElse (Of.own (p := spriteDef?) <| .bind fun _ => .bind fun _ => .bind fun _ =>
    .done rfl rfl) ?_
  refine .orElse (Of.own (p := place?) <| .bind fun _ => .bind fun _ => .bind fun _ =>
    .bind fun _ => .done rfl rfl) ?_
  refine .orElse (of_create cs).own ?_
  refine .orElse (Of.own (p := heightRandom?) <| .bind fun _ => .done rfl rfl) ?_
  refine .orElse (Of.own (p := heightStart?) <| .bind fun _ => .done rfl rfl) ?_
  refine .orElse (Of.own (p := heightEnd?) <| .bind fun _ => .done rfl rfl) ?_
  refine .orElse (Of.own (p := height?) <| .bind fun _ => .done rfl rfl) ?_
  refine .orElse (Of.own (p := roads?) <| .bind fun _ => .bind fun _ => .done rfl rfl) ?_
  refine .orElse (Of.own (p := state?) <| .bind fun _ => .done rfl rfl) ?_
  refine .orElse (Of.own (p := move?) <| .bind fun _ => .bind fun _ => .bind fun _ =>
    .bind fun _ => .done rfl rfl) ?_
  refine .orElse (Of.own (p := attack?) <| .bind fun _ => .bind fun _ => .bind fun _ =>
    .bind fun _ => .done rfl rfl) ?_
  refine .orElse (Of.own (p := effect?) <| .bind fun _ => .bind fun _ => .bind fun _ =>
    .bind fun _ => .done rfl rfl) ?_
  refine .orElse (Of.own (p := removeHeightmap?) <| .bind fun _ => .bind fun _ => .done rfl rfl) ?_
  refine .orElse (Of.own (p := remove?) <| .bind fun _ => .bind fun _ => .done rfl rfl) ?_
  refine .orElse (Of.own (p := clear?) <| .bind fun _ => .bind fun _ => .done rfl rfl) ?_
  exact Of.own (p := reset?) <| .bind fun _ => .done rfl rfl

/-! ## Directives -/

open Directive in
/-- The directives that a form can ask for. -/
inductive Asks : Form → Directive → Prop
  | background (reference : List Char) :
    Asks (.background reference) (.emit (.background (String.ofList (unquoted reference))))
  | map (id : List Char) : Asks (.map id) (.emit (.map (String.ofList id)))
  | initiativeSet (entries : List (List Char × List Char)) (values : List InitiativeEntry) :
    Asks (.initiativeSet entries) (.emit (.initiativeSet values))
  | initiative (value : Option (List Char)) (ids : List (List Char)) (n : Option Int32) :
    Asks (.initiative value ids) (.emit (.initiative n (ids.map String.ofList)))
  | grid (hex : Bool) (size : Option (List Char)) (n : UInt32) :
    Asks (.grid hex size) (.emit (.grid (if hex then .hex else .square) n))
  | board (cols rows : List Char) (m n : UInt32) : Asks (.board cols rows) (.emit (.board m n))
  | spriteDef (code : List Char) (attrs : List (List Char × List Char)) :
    Asks (.spriteDef code attrs)
      (.emit (.spriteDef (String.ofList code) (attributesOf attrs)))
  | place (code : List Char) (items : List (List Char)) (cells : List Cell) :
    Asks (.place code items) (.emit (.place (String.ofList code) cells))
  | create (attrs : List (List Char × List Char)) (items : Option (List (List Char)))
    (target : Target) : Asks (.create attrs items) (.emit (.create (attributesOf attrs) target))
  | heightRandom (attrs : List (List Char × List Char)) (seed : Option UInt64) (min max : Bound) :
    Asks (.heightRandom attrs) (.emit (.heightRandom seed min max))
  | heightStart : Asks .heightStart .startBlock
  | heightEnd : Asks .heightEnd .endBlock
  | height (text : List Char) :
    Asks (.height text) (.openHeights (String.ofList (Text.trim text)))
  | roads (items : List (List Char)) (cells : List Cell) :
    Asks (.roads items) (.emit (.roads cells))
  | state (attrs : List (List Char × List Char)) :
    Asks (.state attrs) (.emit (.state (attributesOf attrs)))
  | move (id : List Char) (items : List (List Char)) (path : Route) :
    Asks (.move id items) (.emit (.move (String.ofList id) path))
  | attack (attacker target : List Char) (magic : Bool) (timings : List Timing) :
    Asks (.attack attacker target magic timings)
      (.emit (.attack (String.ofList attacker) (String.ofList target)
        (if magic then .magic else .physical) (speedOf timings) (durationOf timings)))
  | effect (kind item : List Char) (timings : List Timing) (cell : Cell) :
    Asks (.effect kind item timings)
      (.emit (.effect (String.ofList kind) cell (durationOf timings) (speedOf timings)))
  | removeHeightmap : Asks .removeHeightmap (.emit .removeHeightmap)
  | remove (id : List Char) : Asks (.remove id) (.emit (.remove (String.ofList id)))
  | clear (all : Bool) : Asks (.clear all) (.emit (.clear (if all then .all else .tokens)))
  | reset : Asks .reset (.emit .reset)

theorem asks_of_ofForm? {base : RowBase} {form : Form} {reading : Reading} {d : Directive}
    (h : Directive.ofForm? base form = some reading) (hd : reading.directive = some d) :
    form.Asks d := by
  cases form with
  | initiativeSet entries =>
    obtain ⟨_, -, h⟩ := Option.bind_eq_some_iff.mp h
    cases h
    cases hd
    exact .initiativeSet _ _
  | initiative value ids =>
    cases value with
    | none =>
      cases h
      cases hd
      exact .initiative _ _ _
    | some value =>
      obtain ⟨_, -, h⟩ := Option.bind_eq_some_iff.mp h
      cases h
      cases hd
      exact .initiative _ _ _
  | grid hex size =>
    cases size with
    | none =>
      cases h
      cases hd
      exact .grid _ _ _
    | some size =>
      obtain ⟨_, -, h⟩ := Option.bind_eq_some_iff.mp h
      cases h
      cases hd
      exact .grid _ _ _
  | board cols rows =>
    obtain ⟨_, -, h⟩ := Option.bind_eq_some_iff.mp h
    obtain ⟨_, -, h⟩ := Option.bind_eq_some_iff.mp h
    cases h
    cases hd
    exact .board _ _ _ _
  | create attrs items =>
    cases items with
    | none =>
      cases h
      cases hd
      exact .create _ _ _
    | some items =>
      cases h
      cases hd
      exact .create _ _ _
  | move id items =>
    cases h
    obtain ⟨path, -, rfl⟩ := Option.map_eq_some_iff.mp hd
    exact .move _ _ _
  | effect kind item timings =>
    rw [Directive.ofForm?] at h
    split at h
    · cases h
      cases hd
      exact .effect _ _ _ _
    · cases h
      cases hd
  | _ =>
    cases h
    cases hd
    constructor

end Tabletop.Script.Form
