import CodeClones.Cst.Normal
import CodeClones.Log.Event
import CodeClones.Source.Error
import CodeClones.Source.Fault

/-!
# Source files

A source is tried with the dialects of its language in order. The first tree without faults is
normalised; when every tree has one, the fault of the last attempt is reported. The trees are given:
`Trees` says what each dialect makes of a source, if it makes anything of it at all.
-/

namespace CodeClones

/-- What each dialect makes of one source. -/
abbrev Trees := Dialect → Option Cst.Tree

/-- A source with its top-level nodes. -/
structure SourceFile where
  /-- The name recorded on every node. -/
  filename : String
  /-- What the source was taken for. -/
  language : Language
  /-- The dialect that accepted it. -/
  dialect : Dialect
  /-- The top-level nodes. -/
  nodes : List Node
deriving Repr, Inhabited

/-- What came of trying one dialect. -/
inductive Attempt where
  /-- The dialect made no tree. -/
  | noTree (dialect : Dialect)
  /-- The tree has a fault. -/
  | faulty (dialect : Dialect) (fault : Fault)
  /-- The tree is sound. -/
  | sound (dialect : Dialect) (root : Cst.Tree)
deriving Repr

namespace Attempt

/-- Tries one dialect. -/
def make (trees : Trees) (dialect : Dialect) : Attempt :=
  match trees dialect with
  | none => noTree dialect
  | some root =>
    match Fault.find? root with
    | some fault => faulty dialect fault
    | none => sound dialect root

/-- Tries dialects in order, up to the first that accepts the source. -/
def run (trees : Trees) : List Dialect → List Attempt
  | [] => []
  | dialect :: rest =>
    match make trees dialect with
    | sound dialect root => [sound dialect root]
    | failed => failed :: run trees rest

/-- The dialect and tree of an attempt that succeeded. -/
def sound? : Attempt → Option (Dialect × Cst.Tree)
  | sound dialect root => some (dialect, root)
  | _ => none

/-- The fault that an attempt found. -/
def fault? : Attempt → Option Fault
  | faulty _ fault => some fault
  | _ => none

/-- The last fault that any attempt found. -/
def lastFault (attempts : List Attempt) : Fault :=
  (attempts.filterMap fault?).getLast?.getD .noTree

/-- The target of events about parsing. -/
def logTarget : String := "twinspect_syntax::parser"

/-- What is said about an attempt; one that succeeds is not worth a word. -/
def events (filename : String) : Attempt → List Log.Event
  | noTree dialect =>
    [{ level := .debug, target := logTarget, message := "parser produced no tree",
       fields := [("path", .shown filename), ("dialect", .shown dialect.text)] }]
  | faulty dialect fault =>
    [{ level := .debug, target := logTarget, message := "dialect attempt failed",
       fields := [("path", .shown filename), ("dialect", .shown dialect.text),
         ("message", .shown fault.message)] }]
  | sound _ _ => []

end Attempt

namespace SourceFile

/-- The column from which on a fault is shown without its line, unless told otherwise. -/
def defaultColumnLimit : UInt32 := 100

/-- Parses a source as the given language. -/
def parse (columnLimit : UInt32) (filename : String) (language : Language) (source : String)
    (trees : Trees) : Except SourceError SourceFile :=
  let attempts := Attempt.run trees language.dialects
  match attempts.findSome? Attempt.sound? with
  | some (dialect, root) =>
    .ok { filename, language, dialect, nodes := Cst.programNodes ⟨filename, source⟩ root }
  | none =>
    let fault := Attempt.lastFault attempts
    .error (.unparsed filename fault.message (fault.context source columnLimit))

/-- What is said while a source is parsed as the given language. -/
def sourceEvents (filename : String) (language : Language) (trees : Trees) : List Log.Event :=
  { level := .debug, target := Attempt.logTarget, message := "parsing source",
    fields := [("path", .shown filename), ("language", .shown language.text)] } ::
    (Attempt.run trees language.dialects).flatMap (Attempt.events filename)

/-- The language a path asks for. -/
def languageOf (path : String) : Except SourceError Language :=
  match Path.extension? path with
  | none => .error (.unknownLanguage path)
  | some extension =>
    match Language.ofExtension? extension with
    | none => .error (.unsupportedExtension extension)
    | some language => .ok language

/-- Parses a file as the language of its extension. -/
def parseFile (columnLimit : UInt32) (path source : String) (trees : Trees) :
    Except SourceError SourceFile :=
  match languageOf path with
  | .error e => .error e
  | .ok language => parse columnLimit path language source trees

/-- What is said while a file is parsed as the language of its extension. -/
def fileEvents (path : String) (trees : Trees) : List Log.Event :=
  match languageOf path with
  | .error _ => []
  | .ok language => sourceEvents path language trees

end SourceFile

end CodeClones
