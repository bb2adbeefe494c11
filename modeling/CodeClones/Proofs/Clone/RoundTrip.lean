import CodeClones.Clone.Form
import CodeClones.Proofs.Json.Record
import CodeClones.Proofs.Json.Writing

/-!
# Clones written and read back

The form of a clone is read as the clone, and so is any text that says the same: with other blanks and
escapes, with the members of its objects in another order, or with members that are no fields of the
object they stand in. For each record there is a lemma on its form and one on edits. The main statement is
`form_roundTrip`.
-/

namespace CodeClones

open Json (Reading Value Problem Schema Edited Keeps)

/-- The value of a member of an object, if there is one of that name. -/
def Json.Reading.member? (name : String) : Reading → Option Reading
  | .object members _ => (members.find? fun member => member.1 == some name).map Prod.snd
  | _ => none

namespace Position

/-- The objects in the form of a position. -/
def schema : Schema :=
  .record [("line", .plain), ("column", .plain)]

/-- Reading a position does not notice edits. -/
lemma keeps : Keeps ofReading schema :=
  Keeps.record (.cons ⟨rfl, .plain⟩ (.cons ⟨rfl, .plain⟩ .nil)) (by decide)

/-- The form of a position is read as the position. -/
lemma ofReading_form (p : Position) : ofReading p.form.reading = .ok p := by
  have line := Reading.toUInt32_whole p.line
  have column := Reading.toUInt32_whole p.column
  rw [form, Value.reading_object]
  simp only [List.map_cons, List.map_nil, Value.reading_uint32]
  refine Json.Shape.decode_eq_ok_iff.mpr ⟨⟨some p.line, some p.column⟩, ?_, rfl⟩
  refine Json.Shape.readMembers_field rfl rfl line ?_
  exact Json.Shape.readMembers_field rfl rfl column rfl

end Position

namespace Occurrence

/-- The objects in the form of an occurrence. -/
def schema : Schema :=
  .record [("filename", .plain), ("start", Position.schema), ("end", Position.schema),
    ("lines", .plain)]

/-- Reading an occurrence does not notice edits. -/
lemma keeps : Keeps ofReading schema :=
  Keeps.record (.cons ⟨rfl, .plain⟩ (.cons ⟨rfl, Position.keeps⟩ (.cons ⟨rfl, Position.keeps⟩
    (.cons ⟨rfl, .plain⟩ .nil)))) (by decide)

/-- The form of an occurrence is read as the occurrence. -/
lemma ofReading_form (o : Occurrence) : ofReading o.form.reading = .ok o := by
  obtain ⟨filename, start, stop, lines⟩ := o
  have atStart := Position.ofReading_form start
  have atStop := Position.ofReading_form stop
  rw [form, Value.reading_object]
  simp only [List.cons_append, List.nil_append, List.map_cons, Value.reading_string]
  refine Json.Shape.decode_eq_ok_iff.mpr
    ⟨⟨some filename, some start, some stop, lines.map some⟩, ?_, ?_⟩
  · refine Json.Shape.readMembers_field rfl rfl rfl ?_
    refine Json.Shape.readMembers_field rfl rfl atStart ?_
    refine Json.Shape.readMembers_field rfl rfl atStop ?_
    cases lines with
    | none => rfl
    | some text => rfl
  · cases lines with
    | none => rfl
    | some text => rfl

/-- The form of an occurrence has a member for its lines exactly when there are lines. -/
lemma member?_lines_form (o : Occurrence) :
    o.form.reading.member? "lines" = o.lines.map fun text => .string (some text) := by
  rw [form, Value.reading_object]
  cases o.lines <;> rfl

end Occurrence

namespace Clone

/-- The objects in the form of a clone. -/
def schema : Schema :=
  .record [("hash", .plain), ("instances", .list Occurrence.schema)]

/-- Reading a clone does not notice edits. -/
lemma keeps : Keeps ofReading schema :=
  Keeps.record (.cons ⟨rfl, .plain⟩ (.cons ⟨rfl, Occurrence.keeps.list⟩ .nil)) (by decide)

/-- The form of a clone is read as the clone. -/
lemma ofReading_form (c : Clone) : ofReading c.form.reading = .ok c := by
  have occurrences : (Reading.array (c.occurrences.map fun o => o.form.reading) true).toList
      Occurrence.ofReading = .ok c.occurrences := by
    rw [Reading.toList_eq_ok_iff, List.forall₂_map_left_iff, List.forall₂_same]
    exact fun o _ => o.ofReading_form
  rw [form, Value.reading_object]
  simp only [List.map_cons, List.map_nil, Value.reading_string, Value.reading_array, List.map_map]
  refine Json.Shape.decode_eq_ok_iff.mpr ⟨⟨some c.hash, some c.occurrences⟩, ?_, rfl⟩
  refine Json.Shape.readMembers_field rfl rfl rfl ?_
  exact Json.Shape.readMembers_field rfl rfl occurrences rfl

/-- The form of a clone has a member with the forms of its occurrences in order. -/
lemma member?_instances_form (c : Clone) :
    c.form.reading.member? "instances" =
      some (.array (c.occurrences.map fun o => o.form.reading) true) := by
  rw [form, Value.reading_object]
  simp only [List.map_cons, List.map_nil, Value.reading_array, List.map_map]
  rfl

/-- The text written for a clone is read as the clone. It is the spelling of a value whose `instances`
are objects, one for each occurrence in order, which have a member `lines` exactly when the occurrence
has lines. Whatever is done to that value by putting the members of its objects in another order and
by putting in members that are no fields, and in whatever spelling the result is written, it is read as
the clone as well. -/
theorem form_roundTrip (c : Clone) :
    Json.decodeText ofReading c.form.text = .ok c ∧
    ∃ r : Reading, r.Spelled c.form.text ∧
      (∃ items, r.member? "instances" = some (.array items true) ∧
        List.Forall₂ (fun o item => item.member? "lines" = o.lines.map fun text => .string (some text))
          c.occurrences items) ∧
      ∀ r' text', Relation.ReflTransGen (Edited schema) r r' → r'.Spelled text' →
        Json.decodeText ofReading text' = .ok c := by
  have spelled := c.form.spelled_text
  refine ⟨?_, c.form.reading, spelled, ⟨_, member?_instances_form c, ?_⟩, ?_⟩
  · rw [Json.decodeText_of_spelled spelled]
    exact ofReading_form c
  · rw [List.forall₂_map_right_iff, List.forall₂_same]
    exact fun o _ => o.member?_lines_form
  · intro r' text' edits spelled'
    rw [Json.decodeText_of_spelled spelled']
    exact keeps.edits edits (ofReading_form c)

/-- A clone with quotation marks and the end of a line in its lines. The members of the clone and of its
occurrence come in another order, and the first position has a member that is no field. -/
theorem form_roundTrip_rearranged :
    Json.decodeText ofReading
      ("\x7b\"instances\":[\x7b\"start\":\x7b\"line\":1,\"note\":[],\"column\":0\x7d," ++
        "\"filename\":\"a.js\",\"end\":\x7b\"line\":2,\"column\":3\x7d," ++
        "\"lines\":\"f(\\\"é\\\");\\ng()\"\x7d],\"hash\":\"h\"\x7d") =
      .ok ⟨"h", [⟨"a.js", ⟨1, 0⟩, ⟨2, 3⟩, some "f(\"é\");\ng()"⟩]⟩ := by
  obtain ⟨-, r, spelled, -, kept⟩ :=
    form_roundTrip ⟨"h", [⟨"a.js", ⟨1, 0⟩, ⟨2, 3⟩, some "f(\"é\");\ng()"⟩]⟩
  -- a text spells one value only, so `r` is the value that was written
  cases (Json.Document.read_of_spelled spelled).symm.trans
    (Json.Document.read_of_spelled (Value.spelled_text _))
  let rearranged : Value := .object [
    ("instances", .array [.object [
      ("start", .object [("line", .number 1), ("note", .array []), ("column", .number 0)]),
      ("filename", .string "a.js"), ("end", .object [("line", .number 2), ("column", .number 3)]),
      ("lines", .string "f(\"é\");\ng()")]]),
    ("hash", .string "h")]
  have text : rearranged.text =
      "\x7b\"instances\":[\x7b\"start\":\x7b\"line\":1,\"note\":[],\"column\":0\x7d," ++
        "\"filename\":\"a.js\",\"end\":\x7b\"line\":2,\"column\":3\x7d," ++
        "\"lines\":\"f(\\\"é\\\");\\ng()\"\x7d],\"hash\":\"h\"\x7d" := by decide +kernel
  have note : "note" ∉ ["line", "column"] := by decide
  have inside {o o' : Reading} (edit : Edited Occurrence.schema o o') :
      Edited schema
        (.object [(some "hash", .string (some "h")), (some "instances", .array [o] true)] true)
        (.object [(some "hash", .string (some "h")), (some "instances", .array [o'] true)] true) :=
    @Edited.member _ [_] [] _ _ _ _ (.tail _ (.head _)) (@Edited.item _ [] [] _ _ edit)
  refine kept _ _ ?_ (text ▸ rearranged.spelled_text)
  -- a member in the position, the members of the occurrence, and those of the clone
  refine .tail (.tail (.single (inside ?_)) (inside (.reorder (.swap _ _ _)))) (.reorder (.swap _ _ _))
  exact @Edited.member _ [_] [_, _] _ _ _ _ (.tail _ (.head _)) (@Edited.insert _ [_] [_] _ _ note rfl)

end Clone

end CodeClones
