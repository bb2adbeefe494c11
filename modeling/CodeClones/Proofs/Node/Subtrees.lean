import CodeClones.Node.Basic
import Mathlib.Tactic.Lemma

/-!
# The nodes of a tree

All nodes of a normalised tree, blank ones included, in the order in which they stand in the source: a
node comes before what is in its slots. This is the plain recursion over slots; statements about
"every node at every depth" range over it.
-/

namespace CodeClones.Node

mutual

/-- A node and everything below it. -/
def subtrees : Node → List Node
  | ⟨kind, name, value, span, slots⟩ => ⟨kind, name, value, span, slots⟩ :: slotSubtrees slots

/-- Everything in a list of slots; a hole holds nothing. -/
def slotSubtrees : List (Option Node) → List Node
  | [] => []
  | none :: rest => slotSubtrees rest
  | some n :: rest => subtrees n ++ slotSubtrees rest

end

/-- The nodes of a tree are the node itself and those in its slots. -/
lemma subtrees_eq (n : Node) : n.subtrees = n :: slotSubtrees n.slots := by
  cases n
  rw [subtrees]

/-- No slots hold nothing. -/
@[simp]
lemma slotSubtrees_nil : slotSubtrees [] = [] := by
  rw [slotSubtrees]

/-- What is in slots is what is below the nodes there. -/
lemma slotSubtrees_eq_flatMap (slots : List (Option Node)) :
    slotSubtrees slots = (slots.filterMap id).flatMap subtrees := by
  induction slots with
  | nil => exact slotSubtrees_nil
  | cons slot rest ih =>
    cases slot with
    | none => rw [slotSubtrees, ih, List.filterMap_cons_none rfl]
    | some n =>
      rw [slotSubtrees, ih]
      rfl

/-- What is in slots side by side is what is in both. -/
@[simp]
lemma slotSubtrees_append (slots slots' : List (Option Node)) :
    slotSubtrees (slots ++ slots') = slotSubtrees slots ++ slotSubtrees slots' := by
  simp only [slotSubtrees_eq_flatMap, List.filterMap_append, List.flatMap_append]

/-- A node in slots is below the node in one of them. -/
lemma mem_slotSubtrees {m : Node} {slots : List (Option Node)} :
    m ∈ slotSubtrees slots ↔ ∃ n, some n ∈ slots ∧ m ∈ n.subtrees := by
  simp [slotSubtrees_eq_flatMap]

/-- A node is a node of itself. -/
lemma mem_subtrees_self (n : Node) : n ∈ n.subtrees := by
  rw [subtrees_eq]
  exact List.mem_cons_self

/-- A node of a tree is its root or in the slots of the root. -/
lemma mem_subtrees {m n : Node} : m ∈ n.subtrees ↔ m = n ∨ m ∈ slotSubtrees n.slots := by
  rw [subtrees_eq, List.mem_cons]

/-- What holds of a node whenever it holds of the nodes in its slots holds of every node. -/
@[elab_as_elim]
theorem induct {P : Node → Prop} (step : ∀ n : Node, (∀ m, some m ∈ n.slots → P m) → P n)
    (n : Node) : P n :=
  step n fun m _ => induct step m
termination_by sizeOf n
decreasing_by
  rename_i h
  have smaller := List.sizeOf_lt_of_mem h
  cases n
  simp only [mk.sizeOf_spec]
  simp only [Option.some.sizeOf_spec] at smaller
  omega

/-- What is below a node below another is below that other. -/
lemma mem_subtrees_trans {k m n : Node} (hm : m ∈ n.subtrees) (hk : k ∈ m.subtrees) :
    k ∈ n.subtrees := by
  induction n using Node.induct with
  | step n ih =>
    rcases mem_subtrees.mp hm with rfl | hm
    · exact hk
    · obtain ⟨s, hs, hm⟩ := mem_slotSubtrees.mp hm
      exact mem_subtrees.mpr (.inr (mem_slotSubtrees.mpr ⟨s, hs, ih s hs hm⟩))

end CodeClones.Node
