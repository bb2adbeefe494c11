import CodeClones.Config.Basic
import CodeClones.Log.Filter
import CodeClones.Log.Line

/-!
# Installing the log subscriber

A program has at most one subscriber that writes its log. The first valid request installs one, and
every later request is answered with the format of the one in place. A request whose filter is
invalid installs nothing, and neither does any request when a subscriber from elsewhere is there.
-/

namespace CodeClones.Log

/-- Why no subscriber was installed. -/
inductive InstallError where
  | filter (text : String) (cause : FilterError)
  /-- There is a subscriber from elsewhere. -/
  | occupied
deriving DecidableEq, Repr, Inhabited

/-- What is said about a failure. -/
def InstallError.message : InstallError → String
  | filter text cause => "invalid log filter '" ++ text ++ "': " ++ cause.message
  | occupied =>
    "failed to install telemetry subscriber: " ++
      "a global default trace dispatcher has already been set"

/-- What a program knows about its subscriber; filters are of any type. -/
structure Installation (φ : Type) where
  /-- Whether there is a subscriber from elsewhere. -/
  occupied : Bool := false
  /-- The filter and format of the subscriber that was installed. -/
  installed : Option (φ × Format) := none
deriving Repr

namespace Installation

variable {φ : Type}

/-- Answers a request with the format of the subscriber in place, installing it if need be. -/
def answer (parse : String → Except FilterError φ) (state : Installation φ) (config : Config) :
    Installation φ × Except InstallError Format :=
  match state.installed with
  | some (_, format) => (state, .ok format)
  | none =>
    match parse config.logFilter with
    | .error cause => (state, .error (.filter config.logFilter cause))
    | .ok filter =>
      if state.occupied then (state, .error .occupied)
      else ({ state with installed := some (filter, config.logFormat) }, .ok config.logFormat)

/-- Answers requests one after the other. -/
def answerAll (parse : String → Except FilterError φ) (state : Installation φ) :
    List Config → Installation φ × List (Except InstallError Format)
  | [] => (state, [])
  | config :: rest =>
    let (next, answer) := state.answer parse config
    let (final, answers) := next.answerAll parse rest
    (final, answer :: answers)

end Installation

/-- The lines that the subscriber in place writes for some events. -/
def Installation.log (state : Installation Filter) (events : List Event) : List String :=
  match state.installed with
  | none => []
  | some (filter, format) => (events.filter filter.enabled).map (Event.line format)

end CodeClones.Log
