import CodeClones.Config.Basic

/-!
# Corpora

The parsed files of a program together with their lines, so that groups of nodes can be turned into
complete clones. Each file is there once, in the order of first arrival; adding it again replaces
what was there. A source is parsed before anything of it is put in.
-/

namespace CodeClones

/-- Parsed files with their lines. -/
structure Corpus where
  /-- How far past its base an occurrence may end. -/
  slack : UInt32
  /-- The column from which on faults are shown without their line. -/
  columnLimit : UInt32
  /-- The files in order of first arrival. -/
  files : List SourceFile := []
  /-- The lines of the same files. -/
  lines : Snapshot := .empty
deriving Inhabited

namespace Corpus

/-- A corpus without files. -/
def ofConfig (c : Config) : Corpus :=
  { slack := c.slack, columnLimit := c.columnLimit }

/-- Takes an entry out of a list and moves the last one into its place. -/
def swapRemove {α : Type} (index : Nat) (entries : List α) : List α :=
  match entries.getLast? with
  | none => entries
  | some last => (entries.set index last).dropLast

/-- Puts a file at the end, and then takes out the one that had its name before. -/
def putFile (file : SourceFile) (files : List SourceFile) : List SourceFile :=
  let longer := files ++ [file]
  match files.findIdx? (·.filename == file.filename) with
  | none => longer
  | some index => swapRemove index longer

/-- Adds a source: parses it, and only then puts in its lines and its file. The trees are what the
dialects make of it. -/
def addStep (path source : String) (trees : Trees) : Step Corpus SourceError Unit := do
  let corpus ← get
  let file ← ofExcept (SourceFile.parseFile corpus.columnLimit path source trees)
  modify fun corpus => { corpus with lines := corpus.lines.insertText file.filename source }
  modify fun corpus => { corpus with files := putFile file corpus.files }

/-- The corpus with one more source. -/
def add (corpus : Corpus) (path source : String) (trees : Trees) : Except SourceError Corpus :=
  (addStep path source trees).outcome corpus

/-- The corpus after an attempt to add a source. -/
def afterAdd (corpus : Corpus) (path source : String) (trees : Trees) : Corpus :=
  (addStep path source trees).after corpus

/-- The file of a name. -/
def get? (corpus : Corpus) (filename : String) : Option SourceFile :=
  corpus.files.find? (·.filename == filename)

/-- The clone of groups of nodes, with the lines of every occurrence. -/
def describe (corpus : Corpus) (groups : List (List Node)) : Except CloneError Clone :=
  match Clone.ofGroups corpus.slack groups with
  | .error e => .error e
  | .ok c => c.fill corpus.lines

/-- The target of events about corpora. -/
def logTarget : String := "twinspect::source_set"

/-- Said when a source has been added. -/
def addedEvent (file : SourceFile) : Log.Event :=
  { level := .debug, target := logTarget, message := "added source",
    fields := [("path", .quoted file.filename), ("dialect", .shown file.dialect.text),
      ("nodes", .number file.nodes.length)] }

/-- The events of an attempt to add a source. -/
def addEvents (corpus : Corpus) (path source : String) (trees : Trees) : List Log.Event :=
  SourceFile.fileEvents path trees ++
    match SourceFile.parseFile corpus.columnLimit path source trees with
    | .ok file => [addedEvent file]
    | .error _ => []

/-- The events of describing groups of nodes. -/
def describeEvents (corpus : Corpus) (groups : List (List Node)) : List Log.Event :=
  Clone.buildEvents corpus.slack groups ++
    match Clone.ofGroups corpus.slack groups with
    | .ok c => c.fillEvents corpus.lines
    | .error _ => []

end Corpus

end CodeClones
