/-!
# Paths

A path is a text of names with slashes between them. Empty names and single dots take no part, so a
path may end in a slash or in a dot and still name the same file.
-/

namespace CodeClones.Path

/-- The names of a path that say where to go. -/
def names (path : String) : List String :=
  ((path.toList.splitOn '/').map String.ofList).filter fun name => name != "" && name != "."

/-- The name of the file a path leads to; the step to a parent names none. -/
def fileName? (path : String) : Option String :=
  (names path).getLast?.filter (· != "..")

/-- What follows the last dot of a file name, unless that dot comes first. -/
def extensionOfName? (name : String) : Option String :=
  let reversed := name.toList.reverse
  match reversed.dropWhile (· != '.') with
  | [] => none
  | _ :: stem => if stem.isEmpty then none else some (.ofList (reversed.takeWhile (· != '.')).reverse)

/-- The extension of a path, as written. -/
def extension? (path : String) : Option String :=
  (fileName? path).bind extensionOfName?

/-- The path of a file inside a directory, with one slash between them. -/
def join (directory file : String) : String :=
  if directory.isEmpty || directory.endsWith "/" then directory ++ file
  else directory ++ "/" ++ file

/-- Whether a path ends in a way that asks for a directory: in a slash or in a dot after one. -/
def asksForDirectory (path : String) : Bool :=
  match ((path.toList.splitOn '/').map String.ofList).reverse with
  | last :: _ :: _ => last == "" || last == "."
  | _ => false

end CodeClones.Path
