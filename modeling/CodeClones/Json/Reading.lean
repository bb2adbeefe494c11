import CodeClones.Json.Token

/-!
# What a JSON text says, as far as it can be read

A text that breaks off or goes wrong is still read up to that point, because a reader that knows
what it looks for may find something else to complain about before it gets there. A `Reading` is
therefore a value in which containers may be left open, and in which `Reading.broken` stands where a
value should have been. A text is read by a machine that takes one token at a time and keeps the
open containers on a stack.
-/

namespace CodeClones.Json

/-- A value as far as it could be read. -/
inductive Reading where
  | null
  | bool (b : Bool)
  | number (n : Number)
  /-- A string; without content when a surrogate in it is unpaired. -/
  | string (content : Option String)
  /-- An array, and whether its end was reached. -/
  | array (items : List Reading) (closed : Bool)
  /-- An object, and whether its end was reached. A key is without content like a string; one that
  is no string ends the reading. -/
  | object (members : List (Option String × Reading)) (closed : Bool)
  /-- No value where there should be one. -/
  | broken
deriving Repr, Inhabited

namespace Reading

mutual

/-- Whether a value was read to its end. Unpaired surrogates and numbers without a value do no
harm. -/
def isIntact : Reading → Bool
  | array items closed => closed && areIntact items
  | object members closed => closed && membersIntact members
  | broken => false
  | _ => true

/-- Whether all items of an array were read to their ends. -/
def areIntact : List Reading → Bool
  | [] => true
  | item :: rest => isIntact item && areIntact rest

/-- Whether all members of an object were read to their ends. -/
def membersIntact : List (Option String × Reading) → Bool
  | [] => true
  | (_, value) :: rest => isIntact value && membersIntact rest

end

end Reading

/-- A container that is still open. What was read of it so far is in reverse order. -/
inductive Frame where
  /-- An array with the items read so far. -/
  | array (items : List Reading)
  /-- An object with the members read so far, and the key whose value is being read. -/
  | object (members : List (Option String × Reading)) (key : Option (Option String))
deriving Repr

/-- The container that a frame makes when nothing more of it can be read. The last part is what was
read of the value in progress. -/
def Frame.cut : Frame → Option Reading → Reading
  | array items, last => .array ((last.toList ++ items).reverse) false
  | object members none, _ => .object members.reverse false
  | object members (some key), last =>
    .object ((key, last.getD .broken) :: members).reverse false

/-- The outermost value when nothing more can be read, innermost frame first. -/
def cutAll : List Frame → Option Reading → Reading
  | [], last => last.getD .broken
  | frame :: outer, last => cutAll outer (some (frame.cut last))

/-- What may come next. -/
inductive Expecting where
  | value
  /-- A value, or the end of an array that has no items. -/
  | itemOrEnd
  /-- A key, or the end of an object that has no members. -/
  | keyOrEnd
  | key
  | colon
  /-- A comma, or the end of the container. -/
  | commaOrEnd
deriving DecidableEq, Repr

/-- The state of the machine. -/
inductive State where
  /-- In the middle of a value. -/
  | reading (expecting : Expecting) (stack : List Frame)
  /-- A whole value has been read. -/
  | complete (value : Reading)
  /-- The text went wrong, after this much of a value. -/
  | stopped (value : Reading)
deriving Repr

namespace State

/-- Before the first token. -/
def start : State :=
  reading .value []

/-- Puts a finished value where it belongs. -/
def finish (value : Reading) : List Frame → State
  | [] => complete value
  | .array items :: outer => reading .commaOrEnd (.array (value :: items) :: outer)
  | .object members (some key) :: outer =>
    reading .commaOrEnd (.object ((key, value) :: members) none :: outer)
  | .object members none :: outer => stopped (cutAll (.object members none :: outer) none)

/-- Takes a token where a value may start. -/
def takeValue (stack : List Frame) : Token → State
  | .null => finish .null stack
  | .bool b => finish (.bool b) stack
  | .number n => finish (.number n) stack
  | .string content => finish (.string content) stack
  | .openBracket => reading .itemOrEnd (.array [] :: stack)
  | .openBrace => reading .keyOrEnd (.object [] none :: stack)
  | _ => stopped (cutAll stack none)

/-- Takes a token where a key may start. -/
def takeKey (stack : List Frame) (token : Token) : State :=
  match stack, token with
  | .object members _ :: outer, .string content =>
    reading .colon (.object members (some content) :: outer)
  | stack, _ => stopped (cutAll stack none)

/-- Takes a token where a container may go on or end. -/
def takeEnd (stack : List Frame) (token : Token) : State :=
  match stack, token with
  | .array items :: outer, .comma => reading .value (.array items :: outer)
  | .array items :: outer, .closeBracket => finish (.array items.reverse true) outer
  | .object members key :: outer, .comma => reading .key (.object members key :: outer)
  | .object members _ :: outer, .closeBrace => finish (.object members.reverse true) outer
  | stack, _ => stopped (cutAll stack none)

/-- Takes one token. -/
def step : State → Token → State
  | reading .value stack, token => takeValue stack token
  | reading .itemOrEnd stack, token =>
    match stack, token with
    | .array items :: outer, .closeBracket => finish (.array items.reverse true) outer
    | stack, token => takeValue stack token
  | reading .keyOrEnd stack, token =>
    match stack, token with
    | .object members _ :: outer, .closeBrace => finish (.object members.reverse true) outer
    | stack, token => takeKey stack token
  | reading .key stack, token => takeKey stack token
  | reading .colon stack, .colon => reading .value stack
  | reading .colon stack, _ => stopped (cutAll stack none)
  | reading .commaOrEnd stack, token => takeEnd stack token
  | complete value, _ => stopped value
  | stopped value, _ => stopped value

end State

/-- What a text says. -/
structure Document where
  value : Reading
  /-- Whether the text is that value and nothing else. -/
  isWhole : Bool
deriving Repr

/-- What a state of the machine says when there are no more tokens. -/
def State.document : State → Document
  | reading _ stack => ⟨cutAll stack none, false⟩
  | complete value => ⟨value, true⟩
  | stopped value => ⟨value, false⟩

/-- Reads a text. -/
def Document.read (text : String) : Document :=
  ((tokens text.toList).foldl State.step .start).document

end CodeClones.Json
