import CodeClones.Clone.Bounds
import CodeClones.Clone.Fingerprint
import CodeClones.Clone.Snapshot
import CodeClones.Log.Event
import CodeClones.Step

/-!
# Clones

A clone is code that occurs in several places. It has the fingerprint of its nodes and one
occurrence for each place. It is built from groups of nodes, one per place, and later filled with
the source lines of its occurrences. All texts are cut before the first of them is written.
-/

namespace CodeClones

/-- One place where a clone occurs. -/
structure Occurrence where
  filename : String
  /-- Where the occurrence starts. -/
  start : Position
  /-- Where the occurrence is taken to end. -/
  stop : Position
  /-- Its source lines, once the clone has been filled. -/
  lines : Option String
deriving DecidableEq, Repr, Inhabited

/-- Code that occurs in several places. -/
structure Clone where
  /-- The fingerprint of all groups together. -/
  hash : String
  /-- One occurrence per group, in order. -/
  occurrences : List Occurrence
deriving DecidableEq, Repr, Inhabited

/-- Why a clone cannot be built or filled. -/
inductive CloneError where
  /-- There is no group. -/
  | noGroups
  /-- The group at this index has no nodes. -/
  | emptyGroup (index : Nat)
  /-- An occurrence lies in a file whose lines are not known. -/
  | unknownFile (filename : String)
deriving DecidableEq, Repr, Inhabited

/-- What is said about a failure. -/
def CloneError.message : CloneError → String
  | noGroups => "a match needs at least one node group"
  | emptyGroup index => "node group " ++ toString index ++ " is empty"
  | unknownFile filename => "no contents loaded for file: " ++ filename

namespace Occurrence

/-- The occurrence of a group: it lies in the file of the group's first node. -/
def ofGroup? (slack : UInt32) (group : List Node) : Option Occurrence := do
  let first ← group.head?
  let (start, stop) ← Bounds.ofGroup? slack group
  return { filename := first.span.filename, start, stop, lines := none }

/-- The source lines of an occurrence, cut from a snapshot. -/
def excerpt? (files : Snapshot) (o : Occurrence) : Option String :=
  (files.get? o.filename).map fun lines => excerpt lines o.start o.stop

/-- The source lines of an occurrence, or the file that they are missing for. -/
def excerptOrError (files : Snapshot) (o : Occurrence) : Except CloneError String :=
  match o.excerpt? files with
  | some text => .ok text
  | none => .error (.unknownFile o.filename)

/-- Writes texts into the occurrences of a list, one after the other. -/
def writeTexts : List String → List Occurrence → List Occurrence
  | text :: texts, o :: rest => { o with lines := some text } :: writeTexts texts rest
  | _, rest => rest

end Occurrence

namespace Clone

/-- How many lines past its base an occurrence may end, unless told otherwise. -/
def defaultSlack : UInt32 := 2

/-- The occurrences of groups, the first of which has the given index. -/
def occurrencesFrom (slack : UInt32) :
    Nat → List (List Node) → Except CloneError (List Occurrence)
  | _, [] => .ok []
  | index, group :: rest =>
    match Occurrence.ofGroup? slack group with
    | none => .error (.emptyGroup index)
    | some o =>
      match occurrencesFrom slack (index + 1) rest with
      | .error e => .error e
      | .ok others => .ok (o :: others)

/-- The clone of a list of groups. -/
def ofGroups (slack : UInt32) (groups : List (List Node)) : Except CloneError Clone :=
  if groups.isEmpty then .error .noGroups
  else (occurrencesFrom slack 0 groups).map fun occurrences => ⟨fingerprint groups, occurrences⟩

/-- Fills every occurrence: cuts the texts of all of them, and only then writes them. -/
def fillStep (files : Snapshot) : Step Clone CloneError Unit := do
  let c ← get
  let texts ← ofExcept (c.occurrences.mapM fun o => o.excerptOrError files)
  modify fun c => { c with occurrences := Occurrence.writeTexts texts c.occurrences }

/-- The clone with the source lines of every occurrence. -/
def fill (files : Snapshot) (c : Clone) : Except CloneError Clone :=
  (fillStep files).outcome c

/-- The clone after an attempt to fill it. -/
def afterFill (files : Snapshot) (c : Clone) : Clone :=
  (fillStep files).after c

/-- The target of events about clones. -/
def logTarget : String := "twinspect_core::matching"

/-- Said when a clone has been built. -/
def builtEvent (c : Clone) : Log.Event :=
  { level := .trace, target := logTarget, message := "materialised match",
    fields := [("hash", .shown c.hash), ("instances", .number c.occurrences.length)] }

/-- Said when a clone has been filled. -/
def filledEvent (c : Clone) : Log.Event :=
  { level := .trace, target := logTarget, message := "populated instance lines",
    fields := [("hash", .shown c.hash)] }

/-- The events of building a clone. -/
def buildEvents (slack : UInt32) (groups : List (List Node)) : List Log.Event :=
  match ofGroups slack groups with
  | .ok c => [c.builtEvent]
  | .error _ => []

/-- The events of an attempt to fill a clone. -/
def fillEvents (files : Snapshot) (c : Clone) : List Log.Event :=
  match c.fill files with
  | .ok filled => [filled.filledEvent]
  | .error _ => []

end Clone

end CodeClones
