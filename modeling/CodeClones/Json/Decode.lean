import CodeClones.Json.Reading
import CodeClones.Text.Quoted

/-!
# Decoding

How values of a known type are found in a text. Decoding follows the text from front to back, and
the first problem met is the one reported; a text that breaks off counts as a problem only where it
breaks off. A record is an object with its fields in any order, or an array with its fields in
their own order.
-/

namespace CodeClones.Json

/-- Why a text does not stand for a value of the type asked for. -/
inductive Problem where
  /-- The text is not JSON, or not at the place where a value had to be read. -/
  | malformed
  | invalidType (found expected : String)
  /-- A whole number out of range. -/
  | invalidValue (n : Int) (expected : String)
  /-- An array with too few items. -/
  | invalidLength (n : Nat) (expected : String)
  | missingField (name : String)
  | duplicateField (name : String)
  /-- A word that is none of those allowed. -/
  | unknownVariant (name : String) (allowed : List String)
deriving DecidableEq, Repr, Inhabited

namespace Problem

/-- A word between grave accents. -/
def accented (word : String) : String :=
  "`" ++ word ++ "`"

/-- What is said about a problem; a malformed text has no message of its own. -/
def message? : Problem → Option String
  | malformed => none
  | invalidType found expected => some ("invalid type: " ++ found ++ ", expected " ++ expected)
  | invalidValue n expected =>
    some ("invalid value: integer " ++ accented (toString n) ++ ", expected " ++ expected)
  | invalidLength n expected =>
    some ("invalid length " ++ toString n ++ ", expected " ++ expected)
  | missingField name => some ("missing field " ++ accented name)
  | duplicateField name => some ("duplicate field " ++ accented name)
  | unknownVariant name allowed =>
    some ("unknown variant " ++ accented name ++ ", expected " ++
      String.intercalate " or " (allowed.map accented))

end Problem

/-- Doubles in messages keep a point, and have an exponent when they are very large or very small. -/
def messageStyle : DecimalStyle where
  tie := .even
  positional := fun power => -5 ≤ power && power ≤ 15
  wholeEnding := ".0"

namespace Reading

/-- What a message calls a value; nothing when it could not be read. -/
def describe? : Reading → Option String
  | null => some "null"
  | bool b => some ("boolean " ++ Problem.accented (if b then "true" else "false"))
  | number (.whole n) => some ("integer " ++ Problem.accented (toString n))
  | number (.float x) => some ("floating point " ++ Problem.accented (messageStyle.write x))
  | number .beyond => none
  | string (some text) => some ("string " ++ Text.quote text)
  | string none => none
  | array _ _ => some "sequence"
  | object _ _ => some "map"
  | broken => none

/-- The problem of a value of another type than expected. -/
def mismatch (r : Reading) (expected : String) : Problem :=
  match r.describe? with
  | some found => .invalidType found expected
  | none => .malformed

/-- A text. -/
def toText : Reading → Except Problem String
  | string (some text) => .ok text
  | r => .error (r.mismatch "a string")

/-- A text, or nothing where there is null. -/
def toOptionalText : Reading → Except Problem (Option String)
  | null => .ok none
  | r => r.toText.map some

/-- A whole number of thirty-two bits without sign. -/
def toUInt32 : Reading → Except Problem UInt32
  | number (.whole n) =>
    if 0 ≤ n ∧ n < 0x100000000 then .ok (.ofNat n.toNat) else .error (.invalidValue n "u32")
  | r => .error (r.mismatch "u32")

/-- Decodes the items of an array one after the other. -/
def decodeItems {α : Type} (decode : Reading → Except Problem α) (closed : Bool) :
    List Reading → Except Problem (List α)
  | [] => if closed then .ok [] else .error .malformed
  | item :: rest =>
    match decode item with
    | .error p => .error p
    | .ok x =>
      match decodeItems decode closed rest with
      | .error p => .error p
      | .ok xs => .ok (x :: xs)

/-- An array whose items are all of one type. -/
def toList {α : Type} (decode : Reading → Except Problem α) : Reading → Except Problem (List α)
  | array items closed => decodeItems decode closed items
  | r => .error (r.mismatch "a sequence")

/-- One of a few words, alone or as the only key of an object with null as its value. -/
def toWord (allowed : List String) (r : Reading) : Except Problem String :=
  let check (word : String) : Except Problem String :=
    if allowed.contains word then .ok word else .error (.unknownVariant word allowed)
  match r with
  | string (some word) => check word
  | object ((some key, value) :: rest) closed => do
    let word ← check key
    match value with
    | null => if closed && rest.isEmpty then .ok word else .error .malformed
    | value => .error (value.mismatch "unit")
  | _ => .error .malformed

end Reading

/-- A field of a record whose fields are gathered in a draft, where each has a part of its own. -/
structure Field (δ : Type) where
  name : String
  /-- Whether the record cannot do without it. -/
  required : Bool
  /-- What its values are. -/
  {β : Type}
  /-- How the field's value is read. -/
  read : Reading → Except Problem β
  /-- The value that the draft has for the field. -/
  get : δ → Option β
  /-- Puts a value into the draft. -/
  set : δ → β → δ
  get_set : ∀ draft x, get (set draft x) = some x := by intros; rfl

namespace Field

variable {δ : Type}

/-- Whether a draft has a value for a field. -/
def isFilled (field : Field δ) (draft : δ) : Bool :=
  (field.get draft).isSome

/-- Reads a field's value into a draft. -/
def fill (field : Field δ) (r : Reading) (draft : δ) : Except Problem δ :=
  (field.read r).map (field.set draft)

/-- Fields with different parts of the draft: what is put into one does not show in the other, and it makes
no difference which of them comes first. -/
def Apart (field other : Field δ) : Prop :=
  (∀ draft x, other.get (field.set draft x) = other.get draft) ∧
  (∀ draft y, field.get (other.set draft y) = field.get draft) ∧
  ∀ draft x y, other.set (field.set draft x) y = field.set (other.set draft y) x

end Field

/-- A type of records. -/
structure Shape (δ α : Type) where
  /-- The name that messages use. -/
  name : String
  fields : List (Field δ)
  /-- The draft without any field. -/
  blank : δ
  /-- The record of a draft, or the first field it lacks. -/
  build : δ → Except Problem α
  /-- Each field has a part of the draft to itself. -/
  apart : fields.Pairwise Field.Apart := by simp [CodeClones.Json.Field.Apart]

namespace Shape

variable {δ α : Type}

/-- Reads the members of an object into a draft. Members that are no fields are passed over. -/
def readMembers (shape : Shape δ α) (closed : Bool) :
    List (Option String × Reading) → δ → Except Problem δ
  | [], draft => if closed then .ok draft else .error .malformed
  | (some key, value) :: rest, draft =>
    match shape.fields.find? (·.name == key) with
    | some field =>
      if field.isFilled draft then .error (.duplicateField key)
      else
        match field.fill value draft with
        | .error p => .error p
        | .ok draft => readMembers shape closed rest draft
    | none =>
      if value.isIntact then readMembers shape closed rest draft else .error .malformed
  | (none, _) :: _, _ => .error .malformed

/-- What a message expects of an array with too few items. -/
def expectedLength (shape : Shape δ α) : String :=
  "struct " ++ shape.name ++ " with " ++ toString shape.fields.length ++ " elements"

/-- Reads the items of an array into a draft, as fields in order from the given index on. -/
def readItems (shape : Shape δ α) (closed : Bool) :
    Nat → List (Field δ) → List Reading → δ → Except Problem δ
  | _, [], items, draft => if closed && items.isEmpty then .ok draft else .error .malformed
  | index, field :: fields, [], draft =>
    if !closed then .error .malformed
    else if field.required then .error (.invalidLength index shape.expectedLength)
    else readItems shape closed (index + 1) fields [] draft
  | index, field :: fields, item :: items, draft =>
    match field.fill item draft with
    | .error p => .error p
    | .ok draft => readItems shape closed (index + 1) fields items draft

/-- The record that a value stands for. -/
def decode (shape : Shape δ α) : Reading → Except Problem α
  | .object members closed => do
    let draft ← shape.readMembers closed members shape.blank
    shape.build draft
  | .array items closed => do
    let draft ← shape.readItems closed 0 shape.fields items shape.blank
    shape.build draft
  | r => .error (r.mismatch ("struct " ++ shape.name))

end Shape

/-- Decodes a whole text. -/
def decodeText {α : Type} (decode : Reading → Except Problem α) (text : String) :
    Except Problem α :=
  let document := Document.read text
  match decode document.value with
  | .error p => .error p
  | .ok x => if document.isWhole then .ok x else .error .malformed

/-- A field that a draft has to have. -/
def need {α : Type} (name : String) : Option α → Except Problem α
  | some x => .ok x
  | none => .error (.missingField name)

end CodeClones.Json
