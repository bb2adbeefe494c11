import CodeClones.Text.Blank
import CodeClones.Text.Lines

/-!
# Shared indentation

`dedent` moves a block of lines to the left margin. Indentation is a run of spaces and tabs; the
lines that count are those with a character right after it that is not blank, and the shortest
indentation among them is taken off every line that has that much.
-/

namespace CodeClones.Text

/-- A space or a tab. -/
def isIndent (c : Char) : Bool :=
  c == ' ' || c == '\t'

/-- The length of a line's indentation, for a line whose next character is not blank. -/
def indentWidth? (line : List Char) : Option Nat :=
  match line.dropWhile isIndent with
  | [] => none
  | c :: _ => if isBlank c then none else some (line.takeWhile isIndent).length

/-- The smallest indentation among the lines that have one; zero when no line has. -/
def sharedIndent (parts : List (List Char)) : Nat :=
  (parts.filterMap indentWidth?).min?.getD 0

/-- Drops `width` characters of indentation from a line that starts with as many. -/
def stripIndent (width : Nat) (line : List Char) : List Char :=
  if width ≤ line.length ∧ (line.take width).all isIndent then line.drop width else line

/-- The lines of a block, each without the indentation they share. -/
def dedentLines (parts : List (List Char)) : List (List Char) :=
  parts.map (stripIndent (sharedIndent parts))

/-- A text without the indentation its lines share. -/
def dedent (text : String) : String :=
  joinPieces ((dedentLines (text.toList.splitOn '\n')).map String.ofList)

end CodeClones.Text
