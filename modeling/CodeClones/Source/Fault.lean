import CodeClones.Cst.Tree
import CodeClones.Text.Lines

/-!
# Faults in a tree

Where a source first goes wrong, in the eyes of one dialect. The search goes down from the root,
always into the first child with something wrong in it, until it meets a node that is itself at
fault. The excerpt for a message shows the line of the fault and a caret under its column, when the
column is small enough to be of use.
-/

namespace CodeClones

namespace Cst.Tree

mutual

/-- The node where the search for a fault ends, starting from a node. -/
def faultNode : Tree → Tree
  | t@⟨_, _, isError, isMissing, _, _, _, _, _, children⟩ =>
    if isError || isMissing then t else (firstFaulty children).getD t

/-- The node where the search ends below the first of some siblings with something wrong. -/
def firstFaulty : List Tree → Option Tree
  | [] => none
  | child :: rest => if child.hasError then some (faultNode child) else firstFaulty rest

end

end Cst.Tree

/-- The first thing wrong with a source. -/
structure Fault where
  /-- What is wrong, and where. -/
  message : String
  /-- The position, unless there was no tree to search. -/
  position : Option Position
deriving DecidableEq, Repr, Inhabited

namespace Fault

/-- The fault of a source for which there is no tree. -/
def noTree : Fault :=
  ⟨"parser produced no syntax tree", none⟩

/-- What is wrong with a node at fault. -/
def describe (node : Cst.Tree) : String :=
  if node.isMissing then "missing " ++ node.kind else "unexpected token"

/-- The fault that a node stands for. -/
def ofNode (node : Cst.Tree) : Fault :=
  let position := node.start.position
  ⟨describe node ++ " (" ++ position.text ++ ")", some position⟩

/-- The first fault of a tree, if it has any. -/
def find? (root : Cst.Tree) : Option Fault :=
  if root.hasError then some (ofNode root.faultNode) else none

/-- A line without the carriage returns at its end. -/
def dropReturns (line : String) : String :=
  .ofList (line.toList.reverse.dropWhile (· == '\r')).reverse

/-- The line of a fault with a caret below its column. There is none when no position is known, when
the column reaches the limit, or when the source has no such line. -/
def context (fault : Fault) (source : String) (columnLimit : UInt32) : String :=
  match fault.position with
  | none => ""
  | some position =>
    if columnLimit ≤ position.column then ""
    else
      match (Text.pieces source)[position.line.toNat - 1]? with
      | none => ""
      | some line =>
        "\n" ++ dropReturns line ++ "\n" ++
          .ofList (List.replicate position.column.toNat ' ') ++ "^"

end Fault

end CodeClones
