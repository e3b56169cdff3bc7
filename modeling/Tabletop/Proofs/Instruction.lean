import Tabletop.Instruction.Json
import Tabletop.Proofs.Dict
import Tabletop.Proofs.Json.RoundTrip

/-!
# Instructions survive as texts

A list of instructions is read back from its JSON text.

* `Stands`: a value that a text can hold and that is read as something given. There is one lemma for
  each kind of operand.
* `fields?_record`: a record whose names differ gives each of them its value.
* `Instruction.gives` goes through the operands of each instruction in the order of reading.
* `Instruction.ofListText?_listText`: the instructions of a text are those that were written, as
  long as all their fractions are finite and the reader is exact for them.
-/

namespace Tabletop

open Json

/-! ## Values that stand for something -/

namespace Json

/-- A text can hold the value, and it is read as `a`. -/
structure Stands {α : Type} (decode : Json → Option α) (room : Nat) (j : Json) (a : α) : Prop where
  writable : Writable room j
  decoded : decode j = some a

/-- What is read from every element is the element that was written. -/
theorem mapM_map_eq_some {α β : Type} {write : α → β} {read : β → Option α} {as : List α}
    (h : ∀ a ∈ as, read (write a) = some a) : (as.map write).mapM read = some as := by
  induction as with
  | nil => rfl
  | cons a as ih =>
    obtain ⟨ha, has⟩ := List.forall_mem_cons.mp h
    rw [List.map_cons, List.mapM_cons, ha, ih has]
    rfl

namespace Stands

variable {α : Type} {decode : Json → Option α} {room : Nat}

theorem text (s : String) : Stands asText? room (.text s) s := ⟨.text s, rfl⟩

theorem float {x : Float} (h : Exact x) : Stands asFloat? room (.float x) x := ⟨.float h, rfl⟩

theorem int32 (n : Int32) : Stands asInt32? room (.int n.toInt) n := by
  have hlow := n.le_toInt
  have hhigh := n.toInt_lt
  refine ⟨.int (by omega) (by simp only [Decimal.word64]; omega), ?_⟩
  rw [asInt32?, asInt?, Option.filter_some_pos, Option.map_some, Int32.ofInt_toInt]
  simp only [Bool.and_eq_true, decide_eq_true_eq]
  omega

theorem asNat?_nat {largest n : Nat} (h : n ≤ largest) : (nat n).asNat? largest = some n :=
  if_pos h

theorem uint32 (n : UInt32) : Stands asUInt32? room (nat n.toNat) n := by
  have hlt := n.toNat_lt
  refine ⟨.int (by omega) (by simp only [Decimal.word64]; omega), ?_⟩
  rw [asUInt32?, asNat?_nat (by simp only [UInt32.size]; omega), Option.map_some,
    UInt32.ofNat_toNat]

theorem uint64 (n : UInt64) : Stands asUInt64? room (nat n.toNat) n := by
  have hlt := n.toNat_lt
  refine ⟨.int (by omega) (by simp only [Decimal.word64]; omega), ?_⟩
  rw [asUInt64?, asNat?_nat (by simp only [UInt64.size]; omega), Option.map_some,
    UInt64.ofNat_toNat]

theorem option {encode : α → Json} {o : Option α}
    (h : ∀ a ∈ o, encode a ≠ .null ∧ Stands decode room (encode a) a) :
    Stands (asOption? decode) room (Json.option encode o) o := by
  cases o with
  | none => exact ⟨.null, rfl⟩
  | some a =>
    obtain ⟨hnull, ha⟩ := h a rfl
    refine ⟨ha.writable, ?_⟩
    rw [Json.option, asOption?, ha.decoded, Option.map_some]
    exact hnull

/-- A fraction that may be left out. -/
theorem optionalFloat {o : Option Float} (h : ∀ x ∈ o.toList, Exact x) :
    Stands (asOption? asFloat?) room (Json.option .float o) o :=
  option fun x hx => ⟨by simp, float (h x (Option.mem_toList.mpr hx))⟩

theorem list {encode : α → Json} {as : List α} (h : ∀ a ∈ as, Stands decode room (encode a) a) :
    Stands (asList? decode) (room + 1) (listOf encode as) as := by
  refine ⟨.list (List.forall_mem_map.mpr fun a ha => (h a ha).writable), ?_⟩
  exact mapM_map_eq_some fun a ha => (h a ha).decoded

theorem texts (ss : List String) : Stands (asList? asText?) (room + 1) (strings ss) ss :=
  list fun s _ => text s

theorem choice {ofName? : String → Option α} {name : String} {a : α} (h : ofName? name = some a) :
    Stands (namedChoice? ofName?) room (.text name) a := ⟨.text name, h⟩

end Stands

/-! ## Records -/

theorem valuesOf_eq_singleton {fields : List (String × Json)} {f : String × Json}
    (hkeys : (fields.map (·.1)).Nodup) (hf : f ∈ fields) : valuesOf f.1 fields = [f.2] := by
  induction fields with
  | nil => cases hf
  | cons g fields ih =>
    rw [List.map_cons, List.nodup_cons] at hkeys
    obtain ⟨hnew, hkeys⟩ := hkeys
    have hother : ∀ name ∉ fields.map (·.1), fields.filter (·.1 == name) = [] := by
      intro name hname
      refine List.filter_eq_nil_iff.mpr fun f' hf' heq => hname ?_
      exact List.mem_map.mpr ⟨f', hf', by simpa using heq⟩
    rcases List.mem_cons.mp hf with rfl | hf
    · rw [valuesOf, List.filter_cons_of_pos (by simp), hother _ hnew]
      rfl
    · have hne : g.1 ≠ f.1 := fun heq => hnew (heq ▸ List.mem_map_of_mem hf)
      rw [valuesOf, List.filter_cons_of_neg (by simpa using hne)]
      exact ih hkeys hf

theorem single?_eq_some {fields : List (String × Json)} {f : String × Json}
    (hkeys : (fields.map (·.1)).Nodup) (hf : f ∈ fields) :
    single? f.1 fields = some (some f.2) := by
  rw [single?, valuesOf_eq_singleton hkeys hf]

/-- Some of the fields of a record, asked for by their names. -/
theorem fields?_record {fields part : List (String × Json)} (hkeys : (fields.map (·.1)).Nodup)
    (hpart : part ⊆ fields) :
    fields? (part.map (·.1)) (.record fields) = some (part.map (some ·.2)) := by
  rw [fields?]
  induction part with
  | nil => rfl
  | cons f part ih =>
    obtain ⟨hf, hpart⟩ := List.cons_subset.mp hpart
    rw [List.map_cons, List.mapM_cons, single?_eq_some hkeys hf, ih hpart]
    rfl

end Json

/-! ## Operands -/

namespace Text

theorem cut_append {p : Char → Bool} {front : List Char} {x : Char} (hx : p x = true)
    (hfront : ∀ c ∈ front, p c = false) (back : List Char) :
    cut p (front ++ x :: back) = some (front, back) := by
  induction front with
  | nil => exact if_pos hx
  | cons c front ih =>
    obtain ⟨hc, hfront⟩ := List.forall_mem_cons.mp hfront
    rw [List.cons_append, cut, if_neg (by simp [hc]), ih hfront]
    rfl

end Text

namespace Cell

theorem toList_key (c : Cell) :
    c.key.toList = Decimal.digits c.col.toNat ++ ',' :: Decimal.digits c.row.toNat := by
  simp [key, ToString.toString, Nat.repr_eq_ofList_toDigits, Decimal.digits]

theorem ofKey?_key (c : Cell) : ofKey? c.key = some c := by
  have htrim : ∀ n, Text.trim (Decimal.digits n) = Decimal.digits n := fun n =>
    Text.trim_eq_self fun _ hc => Decimal.isBlank_of_mem_digits hc
  have hcomma : ∀ d ∈ Decimal.digits c.col.toNat, (d == ',') = false := fun d hd => by
    simpa using Decimal.ne_of_mem_digits (by decide) hd
  rw [ofKey?, toList_key, Text.cut_append rfl hcomma]
  simp only [Option.bind_eq_bind, Option.bind_some, htrim, Decimal.readUInt32?_digits]
  rfl

theorem stands {room : Nat} (c : Cell) : Stands ofJson? room c.toJson c :=
  ⟨.text c.key, ofKey?_key c⟩

end Cell

namespace Attributes

theorem stands {room : Nat} (attrs : Attributes) :
    Stands ofJson? (room + 1) attrs.toJson attrs := by
  refine ⟨.record (List.forall_mem_map.mpr fun e _ => .text e.2), ?_⟩
  refine Option.bind_eq_some_iff.mpr ⟨attrs.entries, mapM_map_eq_some fun e _ => rfl, ?_⟩
  exact congrArg some (Dict.ofList_entries attrs)

end Attributes

/-- Cells in a list. -/
theorem stands_cells {room : Nat} (cells : List Cell) :
    Stands (asList? Cell.ofJson?) (room + 1) (listOf Cell.toJson cells) cells :=
  .list fun c _ => c.stands

namespace Target

theorem stands {room : Nat} (t : Target) : Stands ofJson? (room + 2) t.toJson t := by
  cases t with
  | cells cs =>
    obtain ⟨hwritable, hdecoded⟩ := @stands_cells room cs
    refine ⟨.record (by simpa using hwritable), ?_⟩
    exact congrArg (Option.map Target.cells) hdecoded
  | all => exact ⟨.text "all", rfl⟩

end Target

namespace Route

theorem stands {room : Nat} (r : Route) : Stands ofJson? (room + 2) r.toJson r := by
  cases r with
  | «to» c =>
    obtain ⟨hwritable, hdecoded⟩ := @Cell.stands (room + 1) c
    refine ⟨.record (by simpa using hwritable), ?_⟩
    exact congrArg (Option.map Route.to) hdecoded
  | waypoints cs =>
    obtain ⟨hwritable, hdecoded⟩ := @stands_cells room cs
    refine ⟨.record (by simpa using hwritable), ?_⟩
    exact congrArg (Option.map Route.waypoints) hdecoded

end Route

namespace CellHeight

theorem stands {room : Nat} {h : CellHeight} (exact : Exact h.value) :
    Stands ofJson? (room + 1) h.toJson h := by
  obtain ⟨hcell, hcell'⟩ := @Cell.stands room h.cell
  refine ⟨.record ?_, ?_⟩
  · simpa using ⟨hcell, .float exact⟩
  · have hfields : fields? ["cell", "value"] h.toJson =
        some [some h.cell.toJson, some (.float h.value)] := rfl
    rw [ofJson?, hfields]
    simp [required, hcell', asFloat?]

end CellHeight

namespace InitiativeEntry

theorem stands {room : Nat} (e : InitiativeEntry) : Stands ofJson? (room + 1) e.toJson e := by
  obtain ⟨hvalue, hvalue'⟩ := @Stands.int32 room e.value
  refine ⟨.record ?_, ?_⟩
  · simpa using ⟨.text e.id, hvalue⟩
  · have hfields : fields? ["id", "value"] e.toJson =
        some [some (.text e.id), some (.int e.value.toInt)] := rfl
    rw [ofJson?, hfields]
    simp [required, hvalue', asText?]

end InitiativeEntry

theorem Grid.stands {room : Nat} (g : Grid) :
    Stands (namedChoice? Grid.ofName?) room (.text g.name) g := by
  cases g with
  | square => exact .choice rfl
  | hex => exact .choice rfl

theorem AttackKind.stands {room : Nat} (k : AttackKind) :
    Stands (namedChoice? AttackKind.ofName?) room (.text k.name) k := by
  cases k with
  | physical => exact .choice rfl
  | magic => exact .choice rfl

theorem ClearScope.stands {room : Nat} (s : ClearScope) :
    Stands (namedChoice? ClearScope.ofName?) room (.text s.name) s := by
  cases s with
  | tokens => exact .choice rfl
  | all => exact .choice rfl

theorem Bound.number_value {b : Bound} (h : b.value.isFinite = true) : .number b.value = b := by
  have hnot : Decimal.notANumber.isFinite = false := rfl
  cases b with
  | number x => rfl
  | noNumber negative =>
    rw [value, hnot] at h
    cases h

/-! ## Instructions -/

namespace Instruction

/-- The fractions among the operands. -/
def fractions : Instruction → List Float
  | height cells => cells.map (·.value)
  | heightRandom _ min max => [min.value, max.value]
  | attack _ _ _ speed duration => speed.toList ++ duration.toList
  | effect _ _ duration speed => duration.toList ++ speed.toList
  | _ => []

theorem nodup_operandNames (tag : String) : ("type" :: operandNames tag).Nodup := by
  unfold operandNames
  split <;> decide

theorem operandNames_tag (i : Instruction) : operandNames i.tag = i.operands.map (·.1) := by
  cases i <;> rfl

/-- A text can hold the operands, and what is read from them is the instruction. -/
structure Gives (room : Nat) (operands : List (String × Json)) (read : Option Instruction)
    (i : Instruction) : Prop where
  writable : ∀ o ∈ operands, Writable room o.2
  read_eq : read = some i

namespace Gives

variable {α : Type} {decode : Json → Option α} {room : Nat} {j : Json} {i : Instruction}
  {operands : List (String × Json)} {name : String}

theorem done : Gives room [] (some i) i := ⟨by simp, rfl⟩

theorem required {f : α → Option Instruction} {a : α} (h : Stands decode room j a)
    (hrest : Gives room operands (f a) i) :
    Gives room ((name, j) :: operands) (Json.required decode (some j) >>= f) i := by
  refine ⟨List.forall_mem_cons.mpr ⟨h.writable, hrest.writable⟩, ?_⟩
  rw [Option.bind_eq_bind, Json.required, Option.bind_some, h.decoded, Option.bind_some,
    hrest.read_eq]

theorem optional {f : Option α → Option Instruction} {o : Option α}
    (h : Stands (asOption? decode) room j o) (hrest : Gives room operands (f o) i) :
    Gives room ((name, j) :: operands) (Json.optional decode (some j) >>= f) i := by
  refine ⟨List.forall_mem_cons.mpr ⟨h.writable, hrest.writable⟩, ?_⟩
  rw [Option.bind_eq_bind, Json.optional, h.decoded, Option.bind_some, hrest.read_eq]

end Gives

/-- Every instruction with finite fractions has operands that give it back. -/
theorem gives {room : Nat} {i : Instruction} (hfinite : ∀ x ∈ i.fractions, x.isFinite = true)
    (hexact : ∀ x ∈ i.fractions, Exact x) :
    Gives (room + 2) i.operands (ofOperands? i.tag (i.operands.map (some ·.2))) i := by
  cases i with
  | background reference =>
    refine .required (.text reference) ?_
    exact .done
  | map id =>
    refine .required (.text id) ?_
    exact .done
  | initiative value ids =>
    refine .optional (.option fun v _ => ⟨by simp, .int32 v⟩) ?_
    refine .required (.texts ids) ?_
    exact .done
  | initiativeSet entries =>
    refine .required (.list fun e _ => e.stands) ?_
    exact .done
  | grid kind size =>
    refine .required kind.stands ?_
    refine .required (.uint32 size) ?_
    exact .done
  | board cols rows =>
    refine .required (.uint32 cols) ?_
    refine .required (.uint32 rows) ?_
    exact .done
  | spriteDef code attrs =>
    refine .required (.text code) ?_
    refine .required attrs.stands ?_
    exact .done
  | place code cells =>
    refine .required (.text code) ?_
    refine .required (stands_cells cells) ?_
    exact .done
  | create attrs target =>
    refine .required attrs.stands ?_
    refine .required target.stands ?_
    exact .done
  | height cells =>
    refine .required (.list fun c hc => CellHeight.stands (hexact _ (List.mem_map_of_mem hc))) ?_
    exact .done
  | heightRaw text =>
    refine .required (.text text) ?_
    exact .done
  | heightRows rows =>
    refine .required (.texts rows) ?_
    exact .done
  | heightRandom seed min max =>
    have hmin : min.value ∈ (heightRandom seed min max).fractions := List.mem_cons_self
    have hmax : max.value ∈ (heightRandom seed min max).fractions := .tail _ List.mem_cons_self
    refine .optional (.option fun s _ => ⟨by simp [nat], .uint64 s⟩) ?_
    refine .required (.float (hexact _ hmin)) ?_
    refine .required (.float (hexact _ hmax)) ?_
    rw [Bound.number_value (hfinite _ hmin), Bound.number_value (hfinite _ hmax)]
    exact .done
  | roads cells =>
    refine .required (stands_cells cells) ?_
    exact .done
  | state attrs =>
    refine .required attrs.stands ?_
    exact .done
  | move id path =>
    refine .required (.text id) ?_
    refine .required path.stands ?_
    exact .done
  | attack attacker target kind speed duration =>
    obtain ⟨hspeed, hduration⟩ := List.forall_mem_append.mp hexact
    refine .required (.text attacker) ?_
    refine .required (.text target) ?_
    refine .required kind.stands ?_
    refine .optional (.optionalFloat hspeed) ?_
    refine .optional (.optionalFloat hduration) ?_
    exact .done
  | effect kind cell duration speed =>
    obtain ⟨hduration, hspeed⟩ := List.forall_mem_append.mp hexact
    refine .required (.text kind) ?_
    refine .required cell.stands ?_
    refine .optional (.optionalFloat hduration) ?_
    refine .optional (.optionalFloat hspeed) ?_
    exact .done
  | remove id =>
    refine .required (.text id) ?_
    exact .done
  | clear scope =>
    refine .required scope.stands ?_
    exact .done
  | removeHeightmap | reset | cameraState | selection | viewParams | tooltip | unrecognized =>
    exact .done

/-- A record has its tag in front of its operands, under other names. -/
theorem stands {room : Nat} {i : Instruction} (hfinite : ∀ x ∈ i.fractions, x.isFinite = true)
    (hexact : ∀ x ∈ i.fractions, Exact x) : Stands ofJson? (room + 3) i.toJson i := by
  obtain ⟨hwritable, hread⟩ := @gives room i hfinite hexact
  refine ⟨.record (List.forall_mem_cons.mpr ⟨.text i.tag, hwritable⟩), ?_⟩
  have hnames : ((("type", Json.text i.tag) :: i.operands).map (·.1)).Nodup := by
    rw [List.map_cons, ← operandNames_tag]
    exact nodup_operandNames i.tag
  have htag := single?_eq_some hnames List.mem_cons_self
  have hoperands := fields?_record hnames (List.subset_cons_self _ _)
  rw [← operandNames_tag] at hoperands
  rw [toJson, ofJson?, htag]
  simp only [Option.bind_eq_bind, Option.bind_some, required, asText?, hoperands]
  exact hread

/-- The instructions of a text are those that were written. A fraction that is not finite is written
as `null`, and the reader is exact for many finite fractions, though not for all of them. -/
theorem ofListText?_listText {is : List Instruction}
    (hfinite : ∀ i ∈ is, ∀ x ∈ i.fractions, x.isFinite = true)
    (hexact : ∀ i ∈ is, ∀ x ∈ i.fractions, x.isFinite = true → Exact x) :
    ofListText? (listText is) = some is := by
  have hone : ∀ i ∈ is, Stands ofJson? 126 i.toJson i := fun i hi =>
    @stands 123 i (hfinite i hi) fun x hx => hexact i hi x hx (hfinite i hi x hx)
  have hlist : Stands (asList? ofJson?) 127 (listOf toJson is) is := .list hone
  rw [ofListText?, listText, read?_pretty hlist.writable]
  exact hlist.decoded

/-- Instructions of several kinds. -/
def volley : List Instruction :=
  [.heightRandom none (.number (-1.5)) (.number 2.25),
    .create (.ofList [("type", "goblin"), ("name", "\"Grak\", the\nsmall")]) (.cells [⟨1, 2⟩]),
    .attack "hero-1" "goblin-1" .magic (some 0.1) none,
    .move "goblin-1" (.waypoints [⟨1, 2⟩, ⟨3, 2⟩]),
    .unrecognized]

theorem ofListText?_listText_volley : ofListText? (listText volley) = some volley := by
  have hall : ∀ x ∈ volley.flatMap fractions, x.isFinite = true ∧ Exact x := by
    have hfractions : volley.flatMap fractions = [-1.5, 2.25, 0.1] := rfl
    simp only [hfractions, List.forall_mem_cons]
    exact ⟨⟨rfl, rfl⟩, ⟨rfl, rfl⟩, ⟨rfl, rfl⟩, List.forall_mem_nil _⟩
  have hvolley : ∀ i ∈ volley, ∀ x ∈ i.fractions, x.isFinite = true ∧ Exact x :=
    fun i hi x hx => hall x (List.mem_flatMap.mpr ⟨i, hi, hx⟩)
  exact ofListText?_listText (fun i hi x hx => (hvolley i hi x hx).1)
    fun i hi x hx _ => (hvolley i hi x hx).2

end Instruction

end Tabletop
