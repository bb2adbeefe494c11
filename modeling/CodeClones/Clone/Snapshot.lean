import CodeClones.Span
import CodeClones.Text.Indent

/-!
# Snapshots of files

The lines of some files, from which the excerpts of a clone are cut. Each file is held once; putting
a file in again replaces its lines.
-/

namespace CodeClones

/-- The lines of some files, by name. -/
structure Snapshot where
  /-- The files with their lines; no name occurs twice. -/
  files : List (String × List String) := []
deriving DecidableEq, Repr, Inhabited

namespace Snapshot

/-- Replaces the lines of a name where it stands, or puts a new name at the end. -/
def put (name : String) (lines : List String) :
    List (String × List String) → List (String × List String)
  | [] => [(name, lines)]
  | (other, others) :: rest =>
    if other = name then (other, lines) :: rest else (other, others) :: put name lines rest

/-- A snapshot without files. -/
def empty : Snapshot := {}

/-- Puts a file in, given its lines. -/
def insertLines (files : Snapshot) (name : String) (lines : List String) : Snapshot :=
  ⟨put name lines files.files⟩

/-- Puts a file in, given its whole text. -/
def insertText (files : Snapshot) (name text : String) : Snapshot :=
  files.insertLines name (Text.lines text)

/-- The snapshot of a list of files, later ones replacing earlier ones of the same name. -/
def ofList (files : List (String × List String)) : Snapshot :=
  files.foldl (fun snapshot (name, lines) => snapshot.insertLines name lines) empty

/-- The lines of a file. -/
def get? (files : Snapshot) (name : String) : Option (List String) :=
  files.files.lookup name

/-- Whether a file is in the snapshot. -/
def contains (files : Snapshot) (name : String) : Bool :=
  (files.get? name).isSome

/-- The number of files. -/
def size (files : Snapshot) : Nat :=
  files.files.length

/-- Whether there are no files. -/
def isEmpty (files : Snapshot) : Bool :=
  files.files.isEmpty

end Snapshot

/-- The lines from one position's line to another's, as far as the file has them, joined and moved
to the left margin. -/
def excerpt (lines : List String) (start stop : Position) : String :=
  let skipped := start.line.toNat - 1
  Text.dedent (Text.joinPieces ((lines.take stop.line.toNat).drop skipped))

end CodeClones
