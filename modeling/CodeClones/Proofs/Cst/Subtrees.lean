import CodeClones.Cst.Tree
import Mathlib.Tactic.Lemma

/-!
# The nodes of a concrete tree

All nodes of a concrete tree, tokens included, each before its children, and the induction that goes
from the children of a node to the node. Conditions on whole trees are stated for every member of
`Tree.subtrees`; they pass from a node to its children by `Tree.mem_subtrees_of_child`.
-/

namespace CodeClones.Cst.Tree

mutual

/-- A node and everything below it. -/
def subtrees : Tree → List Tree
  | ⟨kind, named, isError, isMissing, hasError, firstByte, endByte, start, stop, children⟩ =>
    ⟨kind, named, isError, isMissing, hasError, firstByte, endByte, start, stop, children⟩ ::
      forestSubtrees children

/-- Everything in a list of siblings. -/
def forestSubtrees : List Tree → List Tree
  | [] => []
  | t :: rest => subtrees t ++ forestSubtrees rest

end

/-- The nodes of a tree are the tree itself and those below its children. -/
lemma subtrees_eq (t : Tree) : t.subtrees = t :: forestSubtrees t.children := by
  cases t
  rw [subtrees]

/-- A node of some siblings is a node of one of them. -/
lemma mem_forestSubtrees {s : Tree} {trees : List Tree} :
    s ∈ forestSubtrees trees ↔ ∃ t ∈ trees, s ∈ t.subtrees := by
  induction trees with
  | nil => simp [forestSubtrees]
  | cons t rest ih => simp [forestSubtrees, ih]

/-- A tree is a node of itself. -/
lemma mem_subtrees_self (t : Tree) : t ∈ t.subtrees := by
  rw [subtrees_eq]
  exact List.mem_cons_self

/-- A node of a child is a node of the tree. -/
lemma mem_subtrees_of_child {s t child : Tree} (hc : child ∈ t.children) (hs : s ∈ child.subtrees) :
    s ∈ t.subtrees := by
  rw [subtrees_eq]
  exact List.mem_cons_of_mem _ (mem_forestSubtrees.mpr ⟨child, hc, hs⟩)

/-- What holds of a node whenever it holds of its children holds of every node. -/
@[elab_as_elim]
theorem induct {P : Tree → Prop} (step : ∀ t : Tree, (∀ child ∈ t.children, P child) → P t)
    (t : Tree) : P t :=
  step t fun child _ => induct step child
termination_by sizeOf t
decreasing_by
  rename_i h
  have smaller := List.sizeOf_lt_of_mem h
  cases t
  simp only [mk.sizeOf_spec]
  simp only at smaller
  omega

/-- A sound node on the first row, where columns and offsets agree. -/
def onFirstRow (kind : String) (named : Bool) (first last : Nat) (children : List Tree) : Tree :=
  ⟨kind, named, false, false, false, first, last, ⟨0, first⟩, ⟨0, last⟩, children⟩

/-- The tree of `[,(x)];<a>b&lt;</a>` without the tokens of the markup: an array with a hole and a
wrapped element, and a text of two parts. -/
def sample : Tree :=
  .onFirstRow "program" true 0 19 [
    .onFirstRow "expression_statement" true 0 7 [
      .onFirstRow "array" true 0 6 [
        .onFirstRow "[" false 0 1 [],
        .onFirstRow "," false 1 2 [],
        .onFirstRow "parenthesized_expression" true 2 5 [
          .onFirstRow "(" false 2 3 [],
          .onFirstRow "identifier" true 3 4 [],
          .onFirstRow ")" false 4 5 []],
        .onFirstRow "]" false 5 6 []],
      .onFirstRow ";" false 6 7 []],
    .onFirstRow "jsx_element" true 7 19 [
      .onFirstRow "jsx_text" true 10 11 [],
      .onFirstRow "html_character_reference" true 11 15 []]]

end CodeClones.Cst.Tree
