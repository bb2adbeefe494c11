import CodeClones.Config.Basic
import CodeClones.Config.FileTree

/-!
# Loading a configuration

A configuration comes from a text, from a file, or from the file of a fixed name in a directory. A
directory without that file is no fault: the defaults apply.
-/

namespace CodeClones

/-- Why a configuration could not be loaded. -/
inductive LoadError where
  | unreadable (path : String) (cause : ReadError)
  /-- The text is no configuration. -/
  | invalid (origin : String) (problem : Json.Problem)
deriving DecidableEq, Repr, Inhabited

/-- What is said about a failure; for an invalid text, what comes before the words on its problem. -/
def LoadError.message : LoadError → String
  | unreadable path cause =>
    "failed to read configuration from " ++ path ++ ": " ++ cause.message
  | invalid origin _ => "invalid configuration in " ++ origin ++ ": "

namespace Config

/-- The name of the file that a directory's configuration is read from. -/
def fileName : String := ".twinspectrc"

/-- The configuration of a text that came from somewhere. -/
def ofTextFrom (origin text : String) : Except LoadError Config :=
  match Json.decodeText ofReading text with
  | .ok c => .ok c
  | .error problem => .error (.invalid origin problem)

/-- The configuration of a text without a place of its own. -/
def ofText (text : String) : Except LoadError Config :=
  ofTextFrom "<string>" text

/-- The configuration in a file. -/
def ofFile (tree : FileTree) (path : String) : Except LoadError Config :=
  match tree.readText path with
  | .error cause => .error (.unreadable path cause)
  | .ok text => ofTextFrom path text

/-- The configuration of a directory. -/
def ofDirectory (tree : FileTree) (directory : String) : Except LoadError Config :=
  let path := Path.join directory fileName
  if tree.isFile path then ofFile tree path else .ok .default

end Config

end CodeClones
