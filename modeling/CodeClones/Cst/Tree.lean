import CodeClones.Span
import CodeClones.Text.Slice

/-!
# Concrete syntax trees

What a grammar makes of a source: a tree that keeps every token. Each node knows its kind, whether
the grammar names it, its extent in bytes and in points, and whether something is wrong with it. A
point is a row and a column, both counted from zero, columns in bytes.
-/

namespace CodeClones.Cst

/-- A row and a column, counted from zero. -/
structure Point where
  row : Nat
  column : Nat
deriving DecidableEq, Repr, Inhabited

/-- The greatest number a position can hold. -/
def largest : Nat := 0xFFFFFFFF

/-- The position of a point, with its line counted from one. What a position cannot hold becomes
the greatest number it can. -/
def Point.position (p : Point) : Position :=
  ⟨.ofNat (min (p.row + 1) largest), .ofNat (min p.column largest)⟩

/-- A node of a concrete syntax tree with everything below it. -/
structure Tree where
  /-- What the grammar calls the node; for a token, its text. -/
  kind : String
  /-- Whether the grammar names the node; tokens are not named. -/
  named : Bool
  /-- Whether the node covers text that the grammar could not place. -/
  isError : Bool
  /-- Whether the node stands for a token that is not there. -/
  isMissing : Bool
  /-- Whether something is wrong with the node or below it. -/
  hasError : Bool
  /-- The offset of the first byte. -/
  firstByte : Nat
  /-- The offset after the last byte. -/
  endByte : Nat
  start : Point
  stop : Point
  /-- The nodes directly below, in source order. -/
  children : List Tree
deriving Repr, Inhabited

namespace Tree

/-- The source text of a node. -/
def text (source : String) (t : Tree) : String :=
  Text.slice source t.firstByte t.endByte

end Tree

end CodeClones.Cst
