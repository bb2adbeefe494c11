import CodeClones.Config.Loading
import CodeClones.Proofs.Json.Record
import CodeClones.Proofs.Json.Writing
import Mathlib.Data.List.ReduceOption

/-!
# Settings over the defaults

A configuration text is an object that gives some of the settings, in any order and among any members
that are no settings. It is read as the default configuration with the given settings in place of its
own. What is given is a draft, in which every setting may be missing; an object gives a draft when its
members that are settings are the draft's, each of them once (`Config.Draft.members`). The main statement
is `ofText_overlay`.
-/

namespace CodeClones

open Json (Reading Value Problem)

/-- The name of a format is read as the format. -/
lemma Log.Format.ofReading_text (f : Log.Format) :
    Log.Format.ofReading (.string (some f.text)) = .ok f := by
  cases f <;> rfl

namespace Config

/-- The names of the settings. -/
def settingNames : List String :=
  ["log_filter", "log_format", "end_line_slack", "caret_column_limit"]

/-- Whether a member gives a setting. -/
def isSetting (member : String × Reading) : Bool :=
  settingNames.contains member.1

/-- The members that give the settings of a draft: a text, the name of a format, and whole numbers of
thirty-two bits. -/
def Draft.members (d : Draft) : List (String × Reading) :=
  [d.logFilter.map fun s => ("log_filter", .string (some s)),
    d.logFormat.map fun f => ("log_format", .string (some f.text)),
    d.slack.map fun n => ("end_line_slack", .number (.whole n.toNat)),
    d.columnLimit.map fun n => ("caret_column_limit", .number (.whole n.toNat))].reduceOption

/-- An object with members all of whose names are texts. -/
def objectOf (members : List (String × Reading)) : Reading :=
  .object (members.map (Prod.map some id)) true

/-- The members of a draft are settings, all of them. -/
lemma filter_members (d : Draft) : d.members.filter isSetting = d.members := by
  rw [List.filter_eq_self]
  rintro ⟨name, value⟩ mem
  rw [Draft.members, List.reduceOption_mem_iff] at mem
  simp only [List.mem_cons, List.not_mem_nil, or_false] at mem
  have named {α : Type} {x? : Option α} {key : String} {write : α → Reading}
      (h : some (name, value) = x?.map fun x => (key, write x)) : name = key := by
    obtain ⟨x, -, e⟩ := Option.map_eq_some_iff.mp h.symm
    exact (congrArg Prod.fst e).symm
  rcases mem with mem | mem | mem | mem <;> rw [named mem] <;> rfl

/-- A setting that may be missing, and then the others. -/
lemma readMembers_optional {β : Type} {name : String} {required : Bool}
    {read : Reading → Except Problem β} {get : Draft → Option β} (put : Draft → Option β → Draft)
    {get_put : ∀ draft x, get (put draft (some x)) = some x} {write : β → Reading} {x? : Option β}
    {rest : List (Option (String × Reading))} {draft final : Draft}
    (found : shape.fields.find? (·.name == name) =
      some ⟨name, required, read, get, fun draft x => put draft (some x), get_put⟩)
    (empty : get draft = none) (same : put draft none = draft) (here : ∀ x, read (write x) = .ok x)
    (others : shape.readMembers true (rest.reduceOption.map (Prod.map some id)) (put draft x?) =
      .ok final) :
    shape.readMembers true
      (((x?.map fun x => (name, write x)) :: rest).reduceOption.map (Prod.map some id)) draft =
        .ok final := by
  cases x? with
  | none =>
    rw [same] at others
    rw [Option.map_none, List.reduceOption_cons_of_none]
    exact others
  | some x =>
    rw [Option.map_some, List.reduceOption_cons_of_some]
    exact Json.Shape.readMembers_field found empty (here x) others

/-- The members of a draft are read into that draft. -/
lemma readMembers_draft (d : Draft) :
    shape.readMembers true (d.members.map (Prod.map some id)) {} = .ok d := by
  refine readMembers_optional (fun d s => { d with logFilter := s }) rfl rfl rfl (fun _ => rfl) ?_
  refine readMembers_optional (fun d f => { d with logFormat := f }) rfl rfl rfl
    Log.Format.ofReading_text ?_
  refine readMembers_optional (fun d n => { d with slack := n }) rfl rfl rfl Reading.toUInt32_whole ?_
  exact readMembers_optional (fun d n => { d with columnLimit := n }) rfl rfl rfl
    Reading.toUInt32_whole rfl

/-- Members that are the settings of a draft, in any order and among others, are read into the draft. -/
lemma readMembers_of_given {d : Draft} {members : List (String × Reading)}
    (intact : (objectOf members).isIntact) (given : (members.filter isSetting).Perm d.members) :
    shape.readMembers true (members.map (Prod.map some id)) {} = .ok d := by
  -- the settings are the draft's in another order, and what is no setting can be left out
  have settings := Json.Shape.readMembers_perm (given.symm.map (Prod.map some id))
    (readMembers_draft d)
  refine Json.Shape.readMembers_of_filter (fun member => member.1.any settingNames.contains) ?_ ?_
  · intro member mem unknown
    have unbroken := Reading.isIntact_part intact member.2 (List.mem_map_of_mem mem)
    obtain ⟨⟨name, value⟩, -, rfl⟩ := List.mem_map.mp mem
    refine ⟨name, rfl, ?_, unbroken⟩
    rw [Json.Shape.find?_eq_none_iff]
    exact fun known => absurd (List.contains_iff_mem.mpr known) (Bool.eq_false_iff.mp unknown)
  · rw [List.filter_map]
    exact settings

/-- A text that gives the settings of a draft is read as the configuration of the draft. -/
lemma ofText_of_given {d : Draft} {members : List (String × Reading)} {text : String}
    (spelled : (objectOf members).Spelled text)
    (given : (members.filter isSetting).Perm d.members) : ofText text = .ok d.config := by
  have read : ofReading (objectOf members) = .ok d.config :=
    Json.Shape.decode_eq_ok_iff.mpr ⟨d, readMembers_of_given spelled.1 given, rfl⟩
  rw [ofText, ofTextFrom, Json.decodeText_of_spelled spelled, read]

/-- A configuration is written as an object that gives all its settings. -/
lemma reading_form (c : Config) :
    c.form.reading = objectOf
      (Draft.members ⟨some c.logFilter, some c.logFormat, some c.slack, some c.columnLimit⟩) := by
  rw [form, Value.reading_object]
  simp only [List.map_cons, List.map_nil, Value.reading_string, Value.reading_uint32]
  rfl

/-- A text that is an object is read as the default configuration with the settings that it gives in
place of the default ones, whatever other members it has and in whatever order they come. So two texts
that give the same settings are read alike, and the text written for a configuration is read as that
configuration. -/
theorem ofText_overlay :
    (∀ (d : Draft) (members : List (String × Reading)) (text : String),
      (objectOf members).Spelled text → (members.filter isSetting).Perm d.members →
        ofText text = .ok
          { logFilter := d.logFilter.getD default.logFilter
            logFormat := d.logFormat.getD default.logFormat
            slack := d.slack.getD default.slack
            columnLimit := d.columnLimit.getD default.columnLimit }) ∧
    (∀ (d : Draft) (members members' : List (String × Reading)) (text text' : String),
      (objectOf members).Spelled text → (members.filter isSetting).Perm d.members →
      (objectOf members').Spelled text' →
      (members'.filter isSetting).Perm (members.filter isSetting) → ofText text' = ofText text) ∧
    ∀ c : Config, ofText c.form.text = .ok c := by
  refine ⟨fun d members text => ofText_of_given, ?_, fun c => ?_⟩
  · intro d members members' text text' spelled given spelled' same
    rw [ofText_of_given spelled given, ofText_of_given spelled' (same.trans given)]
  · have spelled := c.form.spelled_text
    rw [reading_form] at spelled
    exact ofText_of_given spelled (.of_eq (filter_members _))

/-- One setting behind a member that is none. -/
theorem ofText_overlay_slack :
    ofText "\x7b\"other\":[\x7b\x7d],\"end_line_slack\":7\x7d" = .ok { slack := 7 } := by
  have spelled := (Value.object
    [("other", .array [.object []]), ("end_line_slack", .number (7 : UInt32).toNat)]).spelled_text
  simp only [Value.reading_object, Value.reading_array, Value.reading_uint32, List.map_cons,
    List.map_nil] at spelled
  exact ofText_overlay.1 { slack := some 7 }
    [("other", .array [.object [] true] true), ("end_line_slack", .number (.whole 7))] _ spelled
    (.refl _)

end Config

end CodeClones
