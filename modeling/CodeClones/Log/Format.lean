/-!
# Formats of log lines
-/

namespace CodeClones.Log

/-- How log lines are written. -/
inductive Format where
  /-- As members of a JSON object. -/
  | json
  /-- As one line to be read by people. -/
  | compact
deriving DecidableEq, Repr, Inhabited

namespace Format

/-- The name of a format. -/
def text : Format → String
  | json => "json"
  | compact => "compact"

/-- The formats, in order. -/
def all : List Format :=
  [json, compact]

/-- The format of a name. -/
def ofText? (name : String) : Option Format :=
  all.find? (·.text == name)

/-- The format of a name in any case of letters. -/
def ofAnyCase? (name : String) : Option Format :=
  ofText? (.ofList (name.toList.map Char.toLower))

end Format

end CodeClones.Log
