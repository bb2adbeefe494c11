import CodeClones.Text.Blank
import CodeClones.Text.Path

/-!
# Languages and dialects

A language is what a file claims to be by its extension or by name. A dialect is a grammar that can
be tried on it. Every language is tried with both dialects, in the order that is likelier to
succeed first.
-/

namespace CodeClones

/-- A grammar for sources. -/
inductive Dialect where
  /-- With markup. -/
  | tsx
  /-- Without markup, so that casts in angle brackets can be read. -/
  | typeScript
deriving DecidableEq, Repr, Inhabited

/-- The name of a dialect. -/
def Dialect.text : Dialect → String
  | tsx => "tsx"
  | typeScript => "typescript"

/-- What a source claims to be. -/
inductive Language where
  | javaScript
  | jsx
  | typeScript
  | tsx
deriving DecidableEq, Repr, Inhabited

namespace Language

/-- The name of a language. -/
def text : Language → String
  | javaScript => "javascript"
  | jsx => "jsx"
  | typeScript => "typescript"
  | tsx => "tsx"

/-- The dialects to try, in order. -/
def dialects : Language → List Dialect
  | typeScript => [.typeScript, .tsx]
  | _ => [.tsx, .typeScript]

/-- A text in small letters, as far as its letters are those of the seven-bit range. -/
def normalise (text : String) : String :=
  .ofList (text.toList.map Char.toLower)

/-- The language of a file extension, in any case of letters. -/
def ofExtension? (extension : String) : Option Language :=
  match normalise extension with
  | "js" => some javaScript
  | "mjs" => some javaScript
  | "cjs" => some javaScript
  | "jsx" => some jsx
  | "ts" => some typeScript
  | "mts" => some typeScript
  | "cts" => some typeScript
  | "tsx" => some tsx
  | _ => none

/-- The language of a path, by its extension. -/
def ofPath? (path : String) : Option Language :=
  (Path.extension? path).bind ofExtension?

/-- A name that belongs to no language, without the blanks around it and in small letters. -/
structure Unknown where
  input : String
deriving DecidableEq, Repr, Inhabited

/-- What is said about an unknown name. -/
def Unknown.message (e : Unknown) : String :=
  "unsupported language: '" ++ e.input ++ "'"

/-- The language of a name, in any case of letters and with blanks around it. -/
def ofName (name : String) : Except Unknown Language :=
  match normalise (Text.trimBlank name) with
  | "javascript" => .ok javaScript
  | "js" => .ok javaScript
  | "jsx" => .ok jsx
  | "typescript" => .ok typeScript
  | "ts" => .ok typeScript
  | "tsx" => .ok tsx
  | other => .error ⟨other⟩

end Language

end CodeClones
