import CodeClones.Json.Value
import CodeClones.Log.Event
import CodeClones.Log.Format
import CodeClones.Text.Quoted

/-!
# Log lines

An event as one line, without the time. Compact lines have the level, the target, the message and
the fields with their names, except that a field called `message` has no name shown. JSON lines have
the members of an object: the level, the message and the fields, and the target.
-/

namespace CodeClones.Log

/-- A value in a compact line. -/
def Value.compact : Value → String
  | shown text => text
  | quoted text => Text.quote text
  | number n => toString n

/-- A value in a JSON line. -/
def Value.form : Value → Json.Value
  | shown text | quoted text => .string text
  | number n => .number n

namespace Event

/-- The compact line of an event. -/
def compactLine (e : Event) : String :=
  let field (name : String) (value : Value) : String :=
    if name = "message" then " " ++ value.compact else " " ++ name ++ "=" ++ value.compact
  e.level.text ++ " " ++ e.target ++ ": " ++ e.message ++
    String.join (e.fields.map fun (name, value) => field name value)

/-- The members of the JSON line of an event. -/
def members (e : Event) : List (String × Json.Value) :=
  ("level", .string e.level.text) :: ("message", .string e.message) ::
    (e.fields.map fun (name, value) => (name, value.form)) ++ [("target", .string e.target)]

/-- The line of an event in a format. -/
def line (format : Format) (e : Event) : String :=
  match format with
  | .json => Json.membersText e.members
  | .compact => e.compactLine

end Event

end CodeClones.Log
