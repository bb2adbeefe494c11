import CodeClones.Source.Language

/-!
# Failures to parse a source

Why a file does not become nodes: its language is not known, or no dialect of the language accepts it.
-/

namespace CodeClones

/-- Why a source was not parsed. -/
inductive SourceError where
  /-- A dialect could not be set up. -/
  | dialectSetup (dialect : Dialect) (message : String)
  /-- The extension of the file belongs to no language. -/
  | unsupportedExtension (extension : String)
  | unknownLanguage (path : String)
  /-- No dialect accepts the source. The context is empty, or shows the line at fault with a caret
  below it. -/
  | unparsed (path message context : String)
deriving DecidableEq, Repr, Inhabited

/-- What is said about a failure. -/
def SourceError.message : SourceError → String
  | dialectSetup dialect message =>
    "failed to initialise " ++ dialect.text ++ " parser: " ++ message
  | unsupportedExtension extension => "unsupported file extension: " ++ extension
  | unknownLanguage path => "could not determine language for path: " ++ path
  | unparsed path message context => "couldn't parse " ++ path ++ ": " ++ message ++ context

end CodeClones
