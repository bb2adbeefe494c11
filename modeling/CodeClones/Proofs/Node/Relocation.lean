import CodeClones.Clone.Fingerprint
import CodeClones.Node.Walk
import CodeClones.Proofs.Node.Subtrees
import Mathlib.Data.List.Basic

/-!
# Nodes in other places

`Node.relocate f` reads every span of a tree through `f` and leaves all else as it is; with a constant
`f` nothing is left of the places (`Node.unlocated`). Walks do not look at spans: they meet the
relocated nodes of a tree where they meet the nodes themselves (`depthFirst_relocate`,
`breadthFirst_relocate`). So nodes that differ in their places only give the same tokens in the same
order, and groups of them the same fingerprint.
-/

namespace CodeClones.Node

mutual

/-- A node whose spans, at every depth, are read through a function. -/
def relocate (f : Span → Span) : Node → Node
  | ⟨kind, name, value, span, slots⟩ => ⟨kind, name, value, f span, relocateSlots f slots⟩

/-- Slots whose spans are read through a function; holes stay where they are. -/
def relocateSlots (f : Span → Span) : List (Option Node) → List (Option Node)
  | [] => []
  | none :: rest => none :: relocateSlots f rest
  | some n :: rest => some (relocate f n) :: relocateSlots f rest

end

/-- A node without its places. -/
def unlocated (n : Node) : Node :=
  n.relocate fun _ => default

section Relocate

variable {f : Span → Span}

/-- A relocated node, field by field. -/
lemma relocate_eq (n : Node) :
    n.relocate f = ⟨n.kind, n.name, n.value, f n.span, relocateSlots f n.slots⟩ := by
  cases n
  rw [relocate]

/-- Slots are relocated one by one. -/
lemma relocateSlots_eq_map (slots : List (Option Node)) :
    relocateSlots f slots = slots.map (Option.map (relocate f)) := by
  induction slots with
  | nil => rw [relocateSlots, List.map_nil]
  | cons slot rest ih =>
    cases slot with
    | none => rw [relocateSlots, ih, List.map_cons, Option.map_none]
    | some n => rw [relocateSlots, ih, List.map_cons, Option.map_some]

/-- Slots side by side are relocated side by side. -/
@[simp]
lemma relocateSlots_append (slots slots' : List (Option Node)) :
    relocateSlots f (slots ++ slots') = relocateSlots f slots ++ relocateSlots f slots' := by
  simp only [relocateSlots_eq_map, List.map_append]

/-- The nodes in relocated slots are the relocated nodes. -/
lemma filterMap_relocateSlots (slots : List (Option Node)) :
    (relocateSlots f slots).filterMap id = (slots.filterMap id).map (relocate f) := by
  rw [relocateSlots_eq_map, List.filterMap_map, List.map_filterMap]
  rfl

/-- Spans that are read as they are leave the node as it is. -/
lemma relocate_id (n : Node) : n.relocate id = n := by
  induction n using Node.induct with
  | step n ih =>
    have slots : n.slots.map (Option.map (relocate id)) = n.slots := by
      have each : ∀ slot ∈ n.slots, Option.map (relocate id) slot = id slot := by
        intro slot hs
        cases slot with
        | none => rfl
        | some m => exact congrArg some (ih m hs)
      rw [List.map_congr_left each, List.map_id]
    rw [relocate_eq, relocateSlots_eq_map, slots]
    cases n
    rfl

/-- What a node contributes to a fingerprint does not depend on spans. -/
@[simp]
lemma token_relocate (n : Node) : (n.relocate f).token = n.token := by
  rw [relocate_eq]
  rfl

/-- Whether a node is blank does not depend on spans. -/
@[simp]
lemma isBlank_relocate (n : Node) : (n.relocate f).isBlank = n.isBlank := by
  rw [relocate_eq]
  rfl

/-- The children of a relocated node are its relocated children. -/
lemma children_relocate (n : Node) : (n.relocate f).children = n.children.map (relocate f) := by
  have slots : (n.relocate f).slots = relocateSlots f n.slots := by rw [relocate_eq]
  rw [children, present, slots, filterMap_relocateSlots, List.filter_map, children, present]
  congr 2
  funext m
  rw [Function.comp_apply, isBlank_relocate]

/-- Walks in depth over relocated nodes visit the relocated nodes. -/
lemma visitStack_relocate (waiting : List Node) :
    visitStack (waiting.map (relocate f)) = (visitStack waiting).map (relocate f) := by
  induction waiting using visitStack.induct with
  | case1 => rw [List.map_nil, visitStack, List.map_nil]
  | case2 n waiting ih =>
    rw [List.map_cons, visitStack, children_relocate, ← List.map_append, ih, visitStack,
      List.map_cons]

/-- Walks in breadth over relocated nodes visit the relocated nodes. -/
lemma visitQueue_relocate (waiting : List Node) :
    visitQueue (waiting.map (relocate f)) = (visitQueue waiting).map (relocate f) := by
  induction waiting using visitQueue.induct with
  | case1 => rw [List.map_nil, visitQueue, List.map_nil]
  | case2 n waiting ih =>
    rw [List.map_cons, visitQueue, children_relocate, ← List.map_append, ih, visitQueue,
      List.map_cons]

/-- The depth-first walk of a relocated node meets the relocated nodes. -/
lemma depthFirst_relocate (n : Node) :
    (n.relocate f).depthFirst = n.depthFirst.map (relocate f) := by
  rw [depthFirst, descendants, children_relocate, visitStack_relocate, depthFirst, descendants,
    List.map_cons]

/-- The walk by levels of a relocated node meets the relocated nodes. -/
lemma breadthFirst_relocate (n : Node) :
    (n.relocate f).breadthFirst = n.breadthFirst.map (relocate f) :=
  visitQueue_relocate [n]

/-- What is below a relocated node is what was below it, relocated. -/
lemma subtrees_relocate (n : Node) : (n.relocate f).subtrees = n.subtrees.map (relocate f) := by
  induction n using Node.induct with
  | step n ih =>
    have below : slotSubtrees (relocateSlots f n.slots) = (slotSubtrees n.slots).map (relocate f) := by
      rw [slotSubtrees_eq_flatMap, filterMap_relocateSlots, slotSubtrees_eq_flatMap,
        List.flatMap_map, List.map_flatMap]
      refine List.flatMap_congr fun m hm => ih m ?_
      simpa using hm
    have slots : (n.relocate f).slots = relocateSlots f n.slots := by rw [relocate_eq]
    rw [subtrees_eq, slots, below, subtrees_eq n, List.map_cons]

/-- What is below relocated nodes is what was below the nodes, relocated. -/
lemma flatMap_subtrees_relocate (nodes : List Node) :
    (nodes.map (relocate f)).flatMap subtrees = (nodes.flatMap subtrees).map (relocate f) := by
  rw [List.flatMap_map, List.map_flatMap]
  exact List.flatMap_congr fun n _ => subtrees_relocate n

end Relocate

section Unlocated

variable {m n : Node}

/-- Nodes contribute to a fingerprint as they do without their places. -/
lemma map_token_unlocated (nodes : List Node) :
    (nodes.map unlocated).map token = nodes.map token := by
  rw [List.map_map]
  exact List.map_congr_left fun n _ => token_relocate n

/-- Nodes that are the same without their places contribute the same. -/
lemma token_of_unlocated (h : m.unlocated = n.unlocated) : m.token = n.token := by
  rw [← token_relocate m, ← token_relocate n]
  exact congrArg token h

/-- Nodes that differ in their places only give the same tokens depth first. -/
lemma depthFirst_tokens (h : m.unlocated = n.unlocated) :
    m.depthFirst.map token = n.depthFirst.map token := by
  rw [← map_token_unlocated m.depthFirst, ← map_token_unlocated n.depthFirst]
  refine congrArg (List.map token) ?_
  calc m.depthFirst.map unlocated
      = m.unlocated.depthFirst := (depthFirst_relocate m).symm
    _ = n.unlocated.depthFirst := by rw [h]
    _ = n.depthFirst.map unlocated := depthFirst_relocate n

/-- Nodes that differ in their places only give the same tokens level by level. -/
lemma breadthFirst_tokens (h : m.unlocated = n.unlocated) :
    m.breadthFirst.map token = n.breadthFirst.map token := by
  rw [← map_token_unlocated m.breadthFirst, ← map_token_unlocated n.breadthFirst]
  refine congrArg (List.map token) ?_
  calc m.breadthFirst.map unlocated
      = m.unlocated.breadthFirst := (breadthFirst_relocate m).symm
    _ = n.unlocated.breadthFirst := by rw [h]
    _ = n.breadthFirst.map unlocated := breadthFirst_relocate n

/-- Groups of nodes that differ in their places only have the same fingerprint. -/
lemma fingerprint_unlocated {groups : List (List (Node × Node))}
    (h : ∀ group ∈ groups, ∀ pair ∈ group, pair.1.unlocated = pair.2.unlocated) :
    fingerprint (groups.map (List.map Prod.fst)) = fingerprint (groups.map (List.map Prod.snd)) := by
  have same : tokens (groups.map (List.map Prod.fst)) = tokens (groups.map (List.map Prod.snd)) := by
    rw [tokens, tokens, ← List.map_flatten, ← List.map_flatten, List.map_map, List.map_map]
    refine List.map_congr_left ?_
    intro pair hp
    obtain ⟨group, hg, hp⟩ := List.mem_flatten.mp hp
    exact token_of_unlocated (h group hg pair hp)
  rw [fingerprint, fingerprint, tokenStream, tokenStream, same]

end Unlocated

end CodeClones.Node
