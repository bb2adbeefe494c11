import CodeClones.Text.Path

/-!
# File trees

A tree of directories and files, as far as reading a configuration depends on it. An entry is found
by following the names of a path; every name on the way has to lead to a directory.
-/

namespace CodeClones

/-- What a place in a file tree holds. -/
inductive Entry where
  | directory
  | file (bytes : ByteArray)
deriving Inhabited

/-- The entries of a tree by the names that lead to them. The root is always a directory. -/
structure FileTree where
  entries : List (List String × Entry) := []
deriving Inhabited

/-- Why a file cannot be read. -/
inductive ReadError where
  | notFound
  | isADirectory
  | notADirectory
  /-- The bytes are not the encoding of a text. -/
  | invalidData
deriving DecidableEq, Repr, Inhabited

/-- What is said about a failure to read. -/
def ReadError.message : ReadError → String
  | notFound => "No such file or directory (os error 2)"
  | isADirectory => "Is a directory (os error 21)"
  | notADirectory => "Not a directory (os error 20)"
  | invalidData => "stream did not contain valid UTF-8"

namespace FileTree

/-- The entry at a place. -/
def entry? (tree : FileTree) (place : List String) : Option Entry :=
  if place.isEmpty then some .directory else tree.entries.lookup place

/-- The place that a name leads to from another; two dots lead to the parent, and the root is its
own. -/
def enter (place : List String) (name : String) : List String :=
  if name = ".." then place.dropLast else place ++ [name]

/-- The place that names lead to from the root. -/
def place (names : List String) : List String :=
  names.foldl enter []

/-- Follows names from a place that holds the given entry. -/
def follow (tree : FileTree) : List String → Entry → List String → Except ReadError Entry
  | _, entry, [] => .ok entry
  | _, .file _, _ :: _ => .error .notADirectory
  | place, .directory, name :: rest =>
    let next := enter place name
    match tree.entry? next with
    | none => .error .notFound
    | some entry => follow tree next entry rest

/-- The entry that a path leads to. A path that asks for a directory leads to no file. -/
def find (tree : FileTree) (path : String) : Except ReadError Entry :=
  match tree.follow [] .directory (Path.names path) with
  | .ok (.file bytes) => if Path.asksForDirectory path then .error .notADirectory else .ok (.file bytes)
  | result => result

/-- Whether a path leads to a file. -/
def isFile (tree : FileTree) (path : String) : Bool :=
  match tree.find path with
  | .ok (.file _) => true
  | _ => false

/-- The text of the file that a path leads to. -/
def readText (tree : FileTree) (path : String) : Except ReadError String :=
  match tree.find path with
  | .error e => .error e
  | .ok .directory => .error .isADirectory
  | .ok (.file bytes) =>
    match String.fromUTF8? bytes with
    | some text => .ok text
    | none => .error .invalidData

/-- The tree with an entry at a place, in front of any other that was there. -/
def put (tree : FileTree) (place : List String) (entry : Entry) : FileTree :=
  ⟨(place, entry) :: tree.entries.filter (·.1 != place)⟩

/-- The tree with a directory at a path and at every place on the way there. -/
def makeDirectory (tree : FileTree) (path : String) : FileTree :=
  let names := Path.names path
  (List.range names.length).foldl
    (fun tree n => tree.put (place (names.take (n + 1))) .directory) tree

/-- The tree with a file at a path. -/
def write (tree : FileTree) (path : String) (bytes : ByteArray) : FileTree :=
  tree.put (place (Path.names path)) (.file bytes)

end FileTree

end CodeClones
