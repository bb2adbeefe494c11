/-!
# Log events

What the library has to say about its work. An event has a level, a target that names the part of
the library it comes from, a message, and fields in order. A field's value is shown bare, is a text
to be quoted, or is a number.
-/

namespace CodeClones.Log

/-- How much detail an event is about. -/
inductive Level where
  | error
  | warn
  | info
  | debug
  | trace
deriving DecidableEq, Repr, Inhabited

/-- The name of a level. -/
def Level.text : Level → String
  | error => "ERROR"
  | warn => "WARN"
  | info => "INFO"
  | debug => "DEBUG"
  | trace => "TRACE"

/-- The place of a level in the order of detail, from one. -/
def Level.rank : Level → Nat
  | error => 1
  | warn => 2
  | info => 3
  | debug => 4
  | trace => 5

/-- The value of a field. -/
inductive Value where
  /-- A text shown without quotes. -/
  | shown (text : String)
  /-- A text shown in quotes. -/
  | quoted (text : String)
  | number (n : Nat)
deriving DecidableEq, Repr, Inhabited

/-- A value without any quotes. -/
def Value.text : Value → String
  | shown text | quoted text => text
  | number n => toString n

/-- One thing said about the work. -/
structure Event where
  /-- How much detail it is about. -/
  level : Level
  /-- The part of the library it comes from. -/
  target : String
  message : String
  /-- Its further fields, in order; one of them may be called `message` too. -/
  fields : List (String × Value)
deriving DecidableEq, Repr, Inhabited

/-- All fields of an event in order, the message first. -/
def Event.allFields (e : Event) : List (String × String) :=
  ("message", e.message) :: e.fields.map fun (name, value) => (name, value.text)

end CodeClones.Log
