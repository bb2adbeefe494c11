import CodeClones.Log.Event
import CodeClones.Number.Numeral
import CodeClones.Text.Alphanumeric
import CodeClones.Text.Blank

/-!
# Log filters

Which events are logged. A filter is a list of directives with commas between them. A directive is a
level, for all events, or a target and a level, for the events whose target starts with it; between
the two there may be brackets that ask for a span, or for a field in braces. Of the directives that
speak about an event the one with the longest target decides, then one that asks for a field, and of
several alike the last. An event that no directive speaks about is not logged.
-/

namespace CodeClones.Log

/-- What is wrong with the text of a filter. -/
inductive FilterError where
  /-- A directive is not built like one. -/
  | malformed
  /-- What stands for a level is none. -/
  | unknownLevel
deriving DecidableEq, Repr, Inhabited

/-- What is said about the text of a filter. -/
def FilterError.message : FilterError → String
  | malformed => "invalid filter directive"
  | unknownLevel =>
    "error parsing level filter: expected one of " ++
      "\"off\", \"error\", \"warn\", \"info\", \"debug\", \"trace\", or a number 0-5"

/-- One part of a filter. -/
structure Directive where
  /-- What targets start with; every target when absent. -/
  target : Option String := none
  /-- A field that events have. -/
  field : Option String := none
  /-- Whether only what happens inside spans is meant: a span is named, or a field has to have some
  value. No event of this library happens inside a span. -/
  insideSpans : Bool := false
  /-- The greatest rank of levels that are logged; zero turns logging off. -/
  rank : Nat
deriving DecidableEq, Repr, Inhabited

/-- Which events are logged. -/
abbrev Filter := List Directive

/-- The words for ranks, in order from zero. -/
def rankWords : List String :=
  ["off", "error", "warn", "info", "debug", "trace"]

/-- The rank of a word in any case of letters, or of its number. -/
def rank? (word : String) : Option Nat :=
  let lower := String.ofList (word.toList.map Char.toLower)
  match rankWords.idxOf? lower with
  | some rank => some rank
  | none => Numeral.whole? 10 rankWords.length word.toList

namespace Directive

/-- The rank of everything. -/
def allRanks : Nat := Level.trace.rank

/-- The rank of what follows an equals sign; every level when nothing does. -/
def rankOf (level : List Char) : Except FilterError Nat :=
  if level.isEmpty then .ok allRanks
  else
    match rank? (.ofList level) with
    | some rank => .ok rank
    | none => .error .unknownLevel

/-- Whether a directive may start with a character. -/
def mayStart (c : Char) : Bool :=
  c == '[' || c == '-' || c == ':' || c == '_' || Text.isAlphanumeric c

/-- Whether a character ends the target. -/
def endsTarget (c : Char) : Bool :=
  c == '=' || c == '['

/-- What the brackets of a directive ask for, and what follows them. The text starts behind the
opening bracket. -/
def brackets? (text : List Char) : Option (Directive × List Char) :=
  let ends (c : Char) : Bool := c == ']' || c == '\x7b'
  let span := text.takeWhile (!ends ·)
  match text.dropWhile (!ends ·) with
  | [] => none
  | ']' :: rest => some ({ insideSpans := true, rank := allRanks }, rest)
  | _ :: rest =>
    let field := rest.takeWhile (· != '\x7d')
    let name := field.takeWhile (· != '=')
    match rest.dropWhile (· != '\x7d') with
    | '\x7d' :: ']' :: rest =>
      if field.isEmpty then none
      else
        some ({ field := some (.ofList name), insideSpans := !span.isEmpty || name != field,
                rank := allRanks }, rest)
    | _ => none

/-- A directive without equals sign and brackets: a level, or a target with every level. -/
def ofWord (word : String) : Directive :=
  match rank? word with
  | some rank => { rank }
  | none => { target := some word, rank := allRanks }

/-- Reads a directive. Its parts are found without the blanks around it, but they are cut out of the
text as it stands, so that a blank in front leaves no level behind an equals sign. -/
def parse (text : String) : Except FilterError Directive :=
  let chars := text.toList
  let body := (Text.trimBlank text).toList
  let size := (body.takeWhile (!endsTarget ·)).length
  let target := if size = 0 then none else some (String.ofList (chars.take size))
  let rankBehind (rest : List Char) := rankOf (chars.drop (body.length - rest.length))
  if !body.head?.any mayStart then .error .malformed
  else
    match body.drop size with
    | [] => .ok (ofWord text)
    | '=' :: level => (rankBehind level).map fun rank => { target, rank }
    | _ :: inner =>
      match brackets? inner with
      | some (asked, []) => .ok { asked with target }
      | some (asked, '=' :: level) => (rankBehind level).map fun rank => { asked with target, rank }
      | _ => .error .malformed

/-- Whether a directive speaks about an event. -/
def concerns (d : Directive) (e : Event) : Bool :=
  !d.insideSpans &&
    (d.target.all fun start => start.toList.isPrefixOf e.target.toList) &&
    d.field.all fun name => e.allFields.any (·.1 == name)

/-- How closely a directive looks at targets. -/
def closeness (d : Directive) : Nat :=
  match d.target with
  | none => 0
  | some start => start.length + 1

/-- Whether another directive gives way to this one: it looks less closely at targets, or as closely
and asks for no field, or for one whose name does not come after. -/
def outweighs (d other : Directive) : Bool :=
  other.closeness < d.closeness ||
    (other.closeness == d.closeness && !(d.field.getD "" < other.field.getD ""))

end Directive

namespace Filter

/-- Reads a filter; the first directive that cannot be read is reported. -/
def parse (text : String) : Except FilterError Filter :=
  let parts := ((text.toList.splitOn ',').filter (!·.isEmpty)).map String.ofList
  parts.mapM Directive.parse

/-- The directive that decides about an event. -/
def deciding? (filter : Filter) (e : Event) : Option Directive :=
  (filter.filter (·.concerns e)).foldl
    (fun best d =>
      match best with
      | some b => if d.outweighs b then some d else some b
      | none => some d)
    none

/-- Whether an event is logged. -/
def enabled (filter : Filter) (e : Event) : Bool :=
  match deciding? filter e with
  | some d => e.level.rank ≤ d.rank
  | none => false

end Filter

end CodeClones.Log
