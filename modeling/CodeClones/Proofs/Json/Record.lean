import CodeClones.Json.Decode
import Mathlib.Data.List.Pairwise
import Mathlib.Data.List.Perm.Basic
import Mathlib.Logic.Relation

/-!
# Records under changes that do not matter

Members of an object may come in any order, and members that are no fields may stand anywhere among
them. Reading takes one member after the other into a draft (`Shape.Taken`). The fields of a shape have
different parts of the draft (`Shape.apart`), so two members that are taken one after the other can be
taken the other way round (`Taken.swap`), and all members in any order (`readMembers_perm`). An edit
is such a change to one object at any depth of a value (`Edited`). A reader that knows the fields of each
object does not notice edits (`Keeps`).
-/

namespace CodeClones.Json

/-- A value under a function is there when the value is. -/
lemma map_eq_ok_iff {α β : Type} {e : Except Problem α} {f : α → β} {y : β} :
    e.map f = .ok y ↔ ∃ x, e = .ok x ∧ f x = y := by
  cases e with
  | error p => simp [Except.map]
  | ok x => simp [Except.map]

/-! ### Fields of a draft -/

namespace Field

variable {δ : Type} {field other : Field δ} {value value' : Reading} {draft next final : δ}

/-- A field is filled when its value can be read, with that value. -/
lemma fill_eq_ok_iff :
    field.fill value draft = .ok next ↔ ∃ x, field.read value = .ok x ∧ field.set draft x = next :=
  map_eq_ok_iff

/-- A field that has been filled has a value. -/
lemma isFilled_of_fill (h : field.fill value draft = .ok next) : field.isFilled next := by
  obtain ⟨x, -, rfl⟩ := fill_eq_ok_iff.mp h
  rw [isFilled, field.get_set]
  rfl

namespace Apart

/-- Two fields are apart in either order. -/
lemma symm (apart : field.Apart other) : other.Apart field :=
  ⟨apart.2.1, apart.1, fun draft x y => (apart.2.2 draft y x).symm⟩

/-- Filling a field leaves the other as full or empty as it was. -/
lemma isFilled_of_fill (apart : field.Apart other) (h : field.fill value draft = .ok next) :
    other.isFilled next = other.isFilled draft := by
  obtain ⟨x, -, rfl⟩ := fill_eq_ok_iff.mp h
  rw [isFilled, apart.1, isFilled]

/-- Two fields that are filled one after the other can be filled the other way round. -/
lemma fill_comm (apart : field.Apart other) (h : field.fill value draft = .ok next)
    (h' : other.fill value' next = .ok final) :
    ∃ next', other.fill value' draft = .ok next' ∧ field.fill value next' = .ok final := by
  obtain ⟨x, read, rfl⟩ := fill_eq_ok_iff.mp h
  obtain ⟨y, read', rfl⟩ := fill_eq_ok_iff.mp h'
  refine ⟨other.set draft y, fill_eq_ok_iff.mpr ⟨y, read', rfl⟩, ?_⟩
  exact fill_eq_ok_iff.mpr ⟨x, read, (apart.2.2 draft x y).symm⟩

end Apart

end Field

/-! ### Members one after the other -/

namespace Shape

variable {δ α : Type} {shape : Shape δ α}

/-- How a member takes a draft further: it is a field that was not filled before, or no field at
all. -/
inductive Taken (shape : Shape δ α) : Option String × Reading → δ → δ → Prop where
  | field {name value field draft next} :
    shape.fields.find? (·.name == name) = some field →
    field.isFilled draft = false →
    field.fill value draft = .ok next →
    Taken shape (some name, value) draft next
  | other {name value draft} :
    shape.fields.find? (·.name == name) = none →
    value.isIntact →
    Taken shape (some name, value) draft draft

/-- Members are read when the first of them can be taken and the others are read behind it. -/
lemma readMembers_cons_iff {member : Option String × Reading}
    {rest : List (Option String × Reading)} {draft final : δ} :
    shape.readMembers true (member :: rest) draft = .ok final ↔
      ∃ next, shape.Taken member draft next ∧ shape.readMembers true rest next = .ok final := by
  constructor
  · intro h
    obtain ⟨key, value⟩ := member
    cases key with
    | none => cases h
    | some name =>
      rw [readMembers] at h
      split at h
      · next field found =>
        split at h
        · cases h
        · next empty =>
          split at h
          · cases h
          · next next fill => exact ⟨next, .field found (Bool.eq_false_iff.mpr empty) fill, h⟩
      · next found =>
        split at h
        · next intact => exact ⟨draft, .other found intact, h⟩
        · cases h
  · rintro ⟨next, taken, h⟩
    cases taken with
    | field found empty fill =>
      rw [readMembers, found]
      simp only [empty, fill]
      exact h
    | other found intact =>
      rw [readMembers, found]
      simp only [intact]
      exact h

/-- A member that is a field takes its value into the draft. -/
lemma readMembers_field {β : Type} {key name : String} {required : Bool}
    {read : Reading → Except Problem β} {get : δ → Option β} {set : δ → β → δ}
    {get_set : ∀ draft x, get (set draft x) = some x} {value : Reading}
    {rest : List (Option String × Reading)} {draft final : δ} {x : β}
    (found : shape.fields.find? (·.name == key) = some ⟨name, required, read, get, set, get_set⟩)
    (empty : get draft = none) (here : read value = .ok x)
    (others : shape.readMembers true rest (set draft x) = .ok final) :
    shape.readMembers true ((some key, value) :: rest) draft = .ok final := by
  refine readMembers_cons_iff.mpr ⟨set draft x, .field found ?_ ?_, others⟩
  · exact Option.isSome_eq_false_iff.mpr (Option.isNone_iff_eq_none.mpr empty)
  · exact Field.fill_eq_ok_iff.mpr ⟨x, here, rfl⟩

/-- Members are read when the first ones are and then the others. -/
lemma readMembers_append_iff {before after : List (Option String × Reading)} {draft final : δ} :
    shape.readMembers true (before ++ after) draft = .ok final ↔
      ∃ next, shape.readMembers true before draft = .ok next ∧
        shape.readMembers true after next = .ok final := by
  induction before generalizing draft with
  | nil => simp [readMembers]
  | cons member before ih =>
    simp only [List.cons_append, readMembers_cons_iff, ih]
    constructor
    · rintro ⟨first, taken, next, h, h'⟩
      exact ⟨next, ⟨first, taken, h⟩, h'⟩
    · rintro ⟨next, ⟨first, taken, h⟩, h'⟩
      exact ⟨first, taken, next, h, h'⟩

/-- Fields of different names are apart. -/
lemma apart_of_name_ne {field other : Field δ} (mem : field ∈ shape.fields)
    (mem' : other ∈ shape.fields) (ne : field.name ≠ other.name) : field.Apart other := by
  have symmetric : Std.Symm (Field.Apart : Field δ → Field δ → Prop) := ⟨fun _ _ => Field.Apart.symm⟩
  exact shape.apart.forall mem mem' (ne_of_apply_ne _ ne)

/-- The field found for a name is a field of the shape and has the name. -/
lemma name_of_find? {name : String} {field : Field δ}
    (h : shape.fields.find? (·.name == name) = some field) :
    field ∈ shape.fields ∧ field.name = name :=
  ⟨List.mem_of_find?_eq_some h, by simpa using List.find?_some h⟩

/-- No field is found for just the names that no field has. -/
lemma find?_eq_none_iff {name : String} :
    shape.fields.find? (·.name == name) = none ↔ name ∉ shape.fields.map Field.name := by
  simp

/-- Two members that are taken one after the other can be taken the other way round. -/
lemma Taken.swap {member member' : Option String × Reading} {draft next final : δ}
    (h : shape.Taken member draft next) (h' : shape.Taken member' next final) :
    ∃ next', shape.Taken member' draft next' ∧ shape.Taken member next' final := by
  cases h with
  | other found intact => exact ⟨final, h', .other found intact⟩
  | @field name value field _ _ found empty fill =>
    cases h' with
    | other found' intact => exact ⟨draft, .other found' intact, .field found empty fill⟩
    | @field name' value' field' _ _ found' empty' fill' =>
      obtain ⟨mem, named⟩ := name_of_find? found
      obtain ⟨mem', named'⟩ := name_of_find? found'
      by_cases same : name = name'
      · -- a field that has just been filled is not filled again
        subst same
        cases found.symm.trans found'
        rw [Field.isFilled_of_fill fill] at empty'
        cases empty'
      · rw [← named, ← named'] at same
        have apart := apart_of_name_ne mem mem' same
        obtain ⟨next', fill₁, fill₂⟩ := apart.fill_comm fill fill'
        rw [apart.isFilled_of_fill fill] at empty'
        exact ⟨next', .field found' empty' fill₁,
          .field found ((apart.symm.isFilled_of_fill fill₁).trans empty) fill₂⟩

/-- Members that can be read are read in any order to the same draft. -/
theorem readMembers_perm {members members' : List (Option String × Reading)} {draft final : δ}
    (h : members.Perm members') (read : shape.readMembers true members draft = .ok final) :
    shape.readMembers true members' draft = .ok final := by
  induction h generalizing draft with
  | nil => exact read
  | cons member _ ih =>
    obtain ⟨next, taken, read⟩ := readMembers_cons_iff.mp read
    exact readMembers_cons_iff.mpr ⟨next, taken, ih read⟩
  | swap member member' rest =>
    obtain ⟨first, taken, read⟩ := readMembers_cons_iff.mp read
    obtain ⟨second, taken', read⟩ := readMembers_cons_iff.mp read
    obtain ⟨first', taken', taken⟩ := taken.swap taken'
    exact readMembers_cons_iff.mpr ⟨first', taken', readMembers_cons_iff.mpr ⟨second, taken, read⟩⟩
  | trans _ _ ih ih' => exact ih' (ih read)

/-- Members that are no fields can be left out. -/
lemma readMembers_of_filter {members : List (Option String × Reading)} {draft final : δ}
    (known : Option String × Reading → Bool)
    (others : ∀ member ∈ members, known member = false →
      ∃ name, member.1 = some name ∧ shape.fields.find? (·.name == name) = none ∧ member.2.isIntact)
    (read : shape.readMembers true (members.filter known) draft = .ok final) :
    shape.readMembers true members draft = .ok final := by
  induction members generalizing draft with
  | nil => exact read
  | cons member rest ih =>
    have rest_others := fun other ho => others other (List.mem_cons_of_mem _ ho)
    rw [readMembers_cons_iff]
    cases kept : known member with
    | true =>
      rw [List.filter_cons_of_pos kept] at read
      obtain ⟨next, taken, read⟩ := readMembers_cons_iff.mp read
      exact ⟨next, taken, ih rest_others read⟩
    | false =>
      rw [List.filter_cons_of_neg (by simp [kept])] at read
      obtain ⟨key, value⟩ := member
      obtain ⟨name, rfl, found, intact⟩ := others _ List.mem_cons_self kept
      exact ⟨draft, .other found intact, ih rest_others read⟩

end Shape

/-! ### Edits -/

/-- Where the objects of a value are, and what their fields are called. -/
inductive Schema where
  /-- A value that is no record. -/
  | plain
  /-- An array of values of one kind. -/
  | list (item : Schema)
  /-- A record with its fields. -/
  | record (fields : List (String × Schema))

/-- A change to one object of a value: its members are put in another order, or a member that is none of
its fields is put in. -/
inductive Edited : Schema → Reading → Reading → Prop where
  | reorder {fields members members'} :
    members.Perm members' →
    Edited (.record fields) (.object members true) (.object members' true)
  | insert {fields before after name value} :
    name ∉ fields.map Prod.fst →
    value.isIntact →
    Edited (.record fields) (.object (before ++ after) true)
      (.object (before ++ (some name, value) :: after) true)
  | member {fields before after name schema value value'} :
    (name, schema) ∈ fields →
    Edited schema value value' →
    Edited (.record fields) (.object (before ++ (some name, value) :: after) true)
      (.object (before ++ (some name, value') :: after) true)
  | item {schema before after value value'} :
    Edited schema value value' →
    Edited (.list schema) (.array (before ++ value :: after) true)
      (.array (before ++ value' :: after) true)

/-- A reader that reads the same from a value after an edit. -/
def Keeps {α : Type} (decode : Reading → Except Problem α) (schema : Schema) : Prop :=
  ∀ ⦃r r' x⦄, Edited schema r r' → decode r = .ok x → decode r' = .ok x

/-- An array is read when each of its items is. -/
lemma Reading.toList_eq_ok_iff {α : Type} {decode : Reading → Except Problem α}
    {items : List Reading} {xs : List α} :
    (Reading.array items true).toList decode = .ok xs ↔
      List.Forall₂ (fun item x => decode item = .ok x) items xs := by
  rw [toList]
  induction items generalizing xs with
  | nil => simp [decodeItems, eq_comm]
  | cons item rest ih =>
    rw [decodeItems]
    cases first : decode item with
    | error p => cases xs <;> simp [first]
    | ok x =>
      cases others : decodeItems decode true rest with
      | error p =>
        cases xs with
        | nil => simp
        | cons y ys => simp [first, ← ih, others]
      | ok ys =>
        cases xs with
        | nil => simp
        | cons z zs => simp [first, ← ih, others]

/-- A record is read when its members are, and leave nothing out that it needs. -/
lemma Shape.decode_eq_ok_iff {δ α : Type} {shape : Shape δ α}
    {members : List (Option String × Reading)} {x : α} :
    shape.decode (.object members true) = .ok x ↔
      ∃ draft, shape.readMembers true members shape.blank = .ok draft ∧ shape.build draft = .ok x := by
  rw [decode]
  cases shape.readMembers true members shape.blank with
  | error p => simp [bind, Except.bind]
  | ok draft => simp [bind, Except.bind]

namespace Keeps

variable {α δ : Type} {decode : Reading → Except Problem α} {schema : Schema}

/-- Nothing of a value that is no record can be edited. -/
lemma plain : Keeps decode .plain := by
  intro r r' x h
  cases h

/-- A reader that does not notice one edit does not notice any number of them. -/
lemma edits (h : Keeps decode schema) {r r' : Reading} {x : α}
    (edits : Relation.ReflTransGen (Edited schema) r r') (read : decode r = .ok x) :
    decode r' = .ok x := by
  induction edits with
  | refl => exact read
  | tail _ edit ih => exact h edit ih

/-- A reader of arrays does not notice edits that the reader of items does not notice. -/
lemma list (h : Keeps decode schema) : Keeps (Reading.toList decode) (.list schema) := by
  intro r r' xs edit read
  cases edit with
  | @item _ before after value value' edit =>
    rw [Reading.toList_eq_ok_iff] at read ⊢
    induction before generalizing xs with
    | nil =>
      cases read with
      | cons first others => exact .cons (h edit first) others
    | cons item before ih =>
      cases read with
      | cons first others => exact .cons first (ih others)

/-- A field that has the name an entry gives, and reads the same after an edit that the entry allows. -/
def FieldKeeps (field : Field δ) (entry : String × Schema) : Prop :=
  field.name = entry.1 ∧ Keeps field.read entry.2

/-- The field that is found for a name reads the same after an edit that its entry allows. -/
lemma fieldKeeps_of_find? {known : List (Field δ)} {fields : List (String × Schema)}
    (each : List.Forall₂ FieldKeeps known fields) (distinct : (fields.map Prod.fst).Nodup)
    {name : String} (mem : (name, schema) ∈ fields) {field : Field δ}
    (found : known.find? (·.name == name) = some field) : FieldKeeps field (name, schema) := by
  induction each with
  | nil => cases mem
  | @cons first entry known fields here _ ih =>
    obtain ⟨notLater, distinct⟩ := List.nodup_cons.mp distinct
    rcases List.mem_cons.mp mem with rfl | later
    · rw [List.find?_cons_of_pos (by simp [here.1])] at found
      cases found
      exact here
    · have other : entry.1 ≠ name := by
        rintro rfl
        exact notLater (List.mem_map.mpr ⟨_, later, rfl⟩)
      rw [List.find?_cons_of_neg (by simp [here.1, other])] at found
      exact ih distinct later found

/-- A reader of records keeps what its fields keep. -/
theorem record {shape : Shape δ α} {fields : List (String × Schema)}
    (each : List.Forall₂ FieldKeeps shape.fields fields) (distinct : (fields.map Prod.fst).Nodup) :
    Keeps shape.decode (.record fields) := by
  have named : shape.fields.map Field.name = fields.map Prod.fst := by
    rw [← List.forall₂_eq_eq_eq, List.forall₂_map_left_iff, List.forall₂_map_right_iff]
    exact each.imp fun _ _ here => here.1
  intro r r' x edit read
  cases edit with
  | reorder perm =>
    obtain ⟨draft, read, built⟩ := Shape.decode_eq_ok_iff.mp read
    exact Shape.decode_eq_ok_iff.mpr ⟨draft, Shape.readMembers_perm perm read, built⟩
  | @insert _ before after name value unknown intact =>
    obtain ⟨draft, read, built⟩ := Shape.decode_eq_ok_iff.mp read
    obtain ⟨next, read, rest⟩ := Shape.readMembers_append_iff.mp read
    have absent : shape.fields.find? (·.name == name) = none := by
      rw [Shape.find?_eq_none_iff, named]
      exact unknown
    refine Shape.decode_eq_ok_iff.mpr ⟨draft, ?_, built⟩
    exact Shape.readMembers_append_iff.mpr
      ⟨next, read, Shape.readMembers_cons_iff.mpr ⟨next, .other absent intact, rest⟩⟩
  | @member _ before after name schema value value' mem edit =>
    obtain ⟨draft, read, built⟩ := Shape.decode_eq_ok_iff.mp read
    obtain ⟨next, read, rest⟩ := Shape.readMembers_append_iff.mp read
    obtain ⟨behind, taken, rest⟩ := Shape.readMembers_cons_iff.mp rest
    have taken' : shape.Taken (some name, value') next behind := by
      cases taken with
      | field found empty fill =>
        obtain ⟨x, read_x, set⟩ := Field.fill_eq_ok_iff.mp fill
        have keeps := (fieldKeeps_of_find? each distinct mem found).2
        exact .field found empty (Field.fill_eq_ok_iff.mpr ⟨x, keeps edit read_x, set⟩)
      | other found _ =>
        rw [Shape.find?_eq_none_iff, named] at found
        exact absurd (List.mem_map_of_mem mem) found
    refine Shape.decode_eq_ok_iff.mpr ⟨draft, ?_, built⟩
    exact Shape.readMembers_append_iff.mpr
      ⟨next, read, Shape.readMembers_cons_iff.mpr ⟨behind, taken', rest⟩⟩

end Keeps

end CodeClones.Json
