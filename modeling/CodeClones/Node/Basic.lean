import CodeClones.Node.Kind
import CodeClones.Node.Literal
import CodeClones.Span
import CodeClones.Text.Blank

/-!
# Nodes of a normalised syntax tree

A node owns its child slots. A slot is a node or a hole, as before the first comma of an array that
starts with an elided element. Holes take no part in walks and comparisons, and neither do blank
nodes, which are stretches of markup text with nothing to see in them.
-/

namespace CodeClones

/-- A node of a normalised syntax tree. -/
structure Node where
  /-- The syntactic category. -/
  kind : Kind
  name : Option String
  value : Option Literal
  /-- The part of the source the node stands for. -/
  span : Span
  /-- The child slots in source order, holes included. -/
  slots : List (Option Node)
deriving Repr, Inhabited

namespace Node

/-- Whether a node is markup text of blanks only, or with no text at all. -/
def isBlank (n : Node) : Bool :=
  match n.kind, n.value with
  | .jsxText, some (.string text) => Text.allBlank text
  | .jsxText, none => true
  | _, _ => false

/-- The nodes among a list of slots that are not blank. -/
def present (slots : List (Option Node)) : List Node :=
  (slots.filterMap id).filter fun child => !child.isBlank

/-- The children that take part in walks and comparisons, in source order. -/
def children (n : Node) : List Node :=
  present n.slots

/-- Whether a node has no children. -/
def isLeaf (n : Node) : Bool :=
  n.children.isEmpty

/-- What a node contributes to a fingerprint: its name, or its tag when the name is absent or
empty. -/
def token (n : Node) : String :=
  match n.name with
  | some name => if name.isEmpty then n.kind.tag else name
  | none => n.kind.tag

/-- Whether one node starts before another in its file. -/
def startsBefore (a b : Node) : Bool :=
  a.span.start < b.span.start

mutual

/-- Equality of whole nodes: kind, name, value, span and slots. -/
def same : Node → Node → Bool
  | ⟨kind, name, value, span, slots⟩, ⟨kind', name', value', span', slots'⟩ =>
    kind == kind' && name == name' && Literal.sameOption value value' && span == span' &&
      sameSlots slots slots'

/-- Equality of slots, hole by hole and node by node. -/
def sameSlots : List (Option Node) → List (Option Node) → Bool
  | [], [] => true
  | none :: rest, none :: rest' => sameSlots rest rest'
  | some n :: rest, some n' :: rest' => same n n' && sameSlots rest rest'
  | _, _ => false

end

mutual

/-- The number of nodes in a tree. -/
def size : Node → Nat
  | ⟨_, _, _, _, slots⟩ => 1 + slotsSize slots

/-- The number of nodes in the trees of a list of slots. -/
def slotsSize : List (Option Node) → Nat
  | [] => 0
  | none :: rest => slotsSize rest
  | some n :: rest => size n + slotsSize rest

end

/-- The number of nodes in a forest. -/
def forestSize : List Node → Nat
  | [] => 0
  | n :: rest => n.size + forestSize rest

/-- A node is blank when it is markup text whose value, if it has one, is a text of blank characters. -/
theorem isBlank_iff (n : Node) :
    n.isBlank ↔ n.kind = .jsxText ∧
      (n.value = none ∨ ∃ text, n.value = some (.string text) ∧ ∀ c ∈ text.toList, Text.isBlank c) := by
  unfold isBlank
  split
  · next text kind value => simp [kind, value, Text.allBlank]
  · next kind value => simp [kind, value]
  · next noText noValue =>
    simp only [Bool.false_eq_true, false_iff, not_and, not_or, not_exists]
    exact fun kind => ⟨noValue kind, fun text value => absurd value (noText text kind)⟩

/-- The children of a node are the nodes in its slots that are not blank. -/
theorem mem_children_iff {n child : Node} :
    child ∈ n.children ↔ some child ∈ n.slots ∧ child.isBlank = false := by
  simp [children, present]

/-- A node is a leaf when every node in its slots is blank. -/
theorem isLeaf_iff (n : Node) : n.isLeaf ↔ ∀ child, some child ∈ n.slots → child.isBlank := by
  rw [isLeaf, List.isEmpty_iff, List.eq_nil_iff_forall_not_mem]
  simp only [mem_children_iff, not_and, Bool.not_eq_false]

/-- The empty forest has no nodes. -/
@[simp]
theorem forestSize_nil : forestSize [] = 0 := rfl

/-- A forest is as large as its first tree and the others together. -/
@[simp]
theorem forestSize_cons (n : Node) (rest : List Node) :
    forestSize (n :: rest) = n.size + forestSize rest := rfl

/-- Two forests side by side are as large as both together. -/
@[simp]
theorem forestSize_append (xs ys : List Node) :
    forestSize (xs ++ ys) = forestSize xs + forestSize ys := by
  induction xs with
  | nil => simp
  | cons n rest ih => simp only [List.cons_append, forestSize_cons, ih]; omega

/-- No slots hold no nodes. -/
@[simp]
theorem present_nil : present [] = [] := rfl

/-- A hole adds no node. -/
@[simp]
theorem present_hole (rest : List (Option Node)) : present (none :: rest) = present rest := rfl

/-- A node in a slot is among those present unless it is blank. -/
theorem present_some (n : Node) (rest : List (Option Node)) :
    present (some n :: rest) = if n.isBlank then present rest else n :: present rest := by
  cases h : n.isBlank <;> simp [present, h]

/-- The nodes present in a list of slots are no more than all its nodes. -/
theorem forestSize_present_le (slots : List (Option Node)) :
    forestSize (present slots) ≤ slotsSize slots := by
  induction slots with
  | nil => simp
  | cons slot rest ih =>
    cases slot with
    | none => simpa [slotsSize] using ih
    | some n =>
      rw [present_some]
      split
      · simp only [slotsSize]; omega
      · simp only [slotsSize, forestSize_cons]; omega

/-- A node is larger than its children together. -/
theorem forestSize_children_lt (n : Node) : forestSize n.children < n.size := by
  have := forestSize_present_le n.slots
  cases n with
  | mk kind name value span slots =>
    simp only [size, children] at *
    omega

end Node

end CodeClones
