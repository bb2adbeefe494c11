import CodeClones.Proofs.Clone.Filling
import CodeClones.Proofs.Cst.Layout
import CodeClones.Proofs.Source.Attempts
import Mathlib.Data.List.Pairwise

/-!
# What the bounds of an occurrence contain

An occurrence starts with the earliest of its nodes, whatever their order (`start_le`). Its end is
chosen by lines alone, and between positions on one line the last one met is taken; so the chosen end
is never before the last position among which it is chosen (`getLast_le_lowest`). Where the last node of
a group is the one that starts last, as in every group that is drawn in order from the depth-first walk
of a normalised program, no node of the group starts behind the end. The main statement is
`ofGroups_contains_starts`.
-/

namespace CodeClones

namespace Bounds

/-- The lower of two positions is not above the second. -/
lemma le_lowerOf_right (p q : Position) : q ≤ p.lowerOf q := by
  rw [Position.lowerOf]
  split_ifs with lower
  · exact .inl lower
  · exact le_rfl

/-- The lowest position is not before the last one. -/
lemma getLast_le_lowest (first : Position) (rest : List Position) :
    (first :: rest).getLast (List.cons_ne_nil first rest) ≤ lowest first rest := by
  induction rest generalizing first with
  | nil => exact le_rfl
  | cons next rest ih =>
    cases rest with
    | nil => exact le_lowerOf_right first next
    | cons _ _ => exact ih (first.lowerOf next)

/-- The earlier of two nodes starts no later than either. -/
lemma earlier_le (first next : Node) :
    let earlier := if next.startsBefore first then next else first
    earlier.span.start ≤ first.span.start ∧ earlier.span.start ≤ next.span.start := by
  by_cases before : next.startsBefore first
  · have lt : next.span.start < first.span.start := of_decide_eq_true before
    simp only [if_pos before]
    exact ⟨lt.le, le_rfl⟩
  · have ge : ¬ next.span.start < first.span.start := fun lt => before (decide_eq_true lt)
    simp only [if_neg before]
    exact ⟨le_rfl, not_lt.mp ge⟩

/-- An occurrence starts no later than any of its nodes. -/
lemma start_le (first : Node) (rest : List Node) :
    ∀ n ∈ first :: rest, start first rest ≤ n.span.start := by
  induction rest generalizing first with
  | nil =>
    intro n hn
    rw [List.mem_singleton.mp hn]
    exact le_rfl
  | cons next rest ih =>
    -- the earlier of the first two nodes goes on in their place
    have bounds := ih (if next.startsBefore first then next else first)
    obtain ⟨to_first, to_next⟩ := earlier_le first next
    have bound := bounds _ List.mem_cons_self
    intro n hn
    rcases List.mem_cons.mp hn with rfl | hn
    · exact bound.trans to_first
    · rcases List.mem_cons.mp hn with rfl | hn
      · exact bound.trans to_next
      · exact bounds n (List.mem_cons_of_mem _ hn)

section Last

variable {first last : Node} {rest : List Node}
  (isLast : (first :: rest).getLast (List.cons_ne_nil first rest) = last)
include isLast

/-- The lowest of the nodes' positions is not above that of the last node. -/
lemma le_lowest_map (f : Node → Position) : f last ≤ lowest (f first) (rest.map f) := by
  have h := getLast_le_lowest (f first) (rest.map f)
  have last_map : ((first :: rest).map f).getLast (by simp) = f last := by
    rw [List.getLast_map, isLast]
  exact last_map ▸ h

variable (forward : last.span.start ≤ last.span.stop)
include forward

/-- The base is not above the start of the last node. -/
lemma le_base : last.span.start ≤ base first rest := by
  rw [base]
  split_ifs with leaf
  · rw [isLast]
    exact forward
  · exact le_lowest_map isLast (·.span.start)

/-- Whichever way the end is chosen, the last node does not start behind it. -/
lemma le_stop (slack : UInt32) : last.span.start ≤ stop slack first rest := by
  rw [stop]
  split_ifs with near
  · exact forward.trans (le_lowest_map isLast (·.span.stop))
  · exact le_base isLast forward

end Last

/-- The bounds of nodes that come in order and none of which ends before it starts hold all starts. -/
lemma contains_of_sorted {first : Node} {rest : List Node} (slack : UInt32)
    (sorted : (first :: rest).Pairwise fun a b => a.span.start ≤ b.span.start)
    (forward : ∀ n ∈ first :: rest, n.span.start ≤ n.span.stop) {n : Node}
    (h : n ∈ first :: rest) :
    start first rest ≤ n.span.start ∧ n.span.start ≤ stop slack first rest := by
  have last_mem := List.getLast_mem (List.cons_ne_nil first rest)
  have to_last := sorted.rel_getLast_of_rel_getLast_getLast h le_rfl
  exact ⟨start_le first rest n h, to_last.trans (le_stop rfl (forward _ last_mem) slack)⟩

end Bounds

namespace Clone

/-- A group that is drawn in order from the depth-first walk of a top-level node has an occurrence that
starts no later and ends no earlier than any node of the group starts, whatever the slack and whatever
other groups the clone is made of. -/
theorem ofGroups_contains_starts {columnLimit : UInt32} {filename source : String}
    {language : Language} {trees : Trees} {file : SourceFile}
    (parsed : SourceFile.parse columnLimit filename language source trees = .ok file)
    (laidOut : ∀ root, trees file.dialect = some root → root.LaidOut)
    {top : Node} (htop : top ∈ file.nodes) (slack : UInt32) {groups : List (List Node)}
    (full : ∀ group ∈ groups, group ≠ []) {i : Nat} {group : List Node}
    (here : groups[i]? = some group) (drawn : group.Sublist top.depthFirst) :
    ∃ clone o, ofGroups slack groups = .ok clone ∧ clone.occurrences[i]? = some o ∧
      ∀ n ∈ group, o.start ≤ n.span.start ∧ n.span.start ≤ o.stop := by
  obtain ⟨root, made, nodes⟩ := SourceFile.parse_inv parsed
  rw [nodes] at htop
  have nested : top.Nested := Cst.nested_of_mem_programNodes (laidOut root made) htop
  have forward : ∀ n ∈ group, n.span.start ≤ n.span.stop := by
    intro n hn
    exact (nested n (Node.mem_subtrees_of_mem_depthFirst (drawn.subset hn))).le
  have sorted := (Node.depthFirst_sorted nested).sublist drawn
  have none_empty : groups.findIdx? List.isEmpty = none := by
    rw [List.findIdx?_eq_none_iff]
    intro group hg
    exact List.isEmpty_eq_false_iff.mpr (full group hg)
  have some_group : groups ≠ [] := List.ne_nil_of_mem (List.mem_of_getElem? here)
  cases group with
  | nil => exact absurd rfl (full [] (List.mem_of_getElem? here))
  | cons first rest =>
    have occurs := Occurrence.getElem?_filterMap_ofGroup? slack full here
    rw [Occurrence.ofGroup?_cons] at occurs
    refine ⟨_, _, ofGroups_of_full some_group none_empty, occurs, ?_⟩
    intro n hn
    exact Bounds.contains_of_sorted slack sorted forward hn

/-- The tree of a call whose argument stands on the next line. -/
def callOnTwoLines : Cst.Tree :=
  ⟨"program", true, false, false, false, 0, 7, ⟨0, 0⟩, ⟨1, 4⟩, [
    ⟨"call_expression", true, false, false, false, 0, 7, ⟨0, 0⟩, ⟨1, 4⟩, [
      ⟨"identifier", true, false, false, false, 0, 1, ⟨0, 0⟩, ⟨0, 1⟩, []⟩,
      ⟨"arguments", true, false, false, false, 1, 7, ⟨0, 1⟩, ⟨1, 4⟩, [
        ⟨"identifier", true, false, false, false, 5, 6, ⟨1, 2⟩, ⟨1, 3⟩, []⟩]⟩]⟩]⟩

/-- All nodes of the call, as one group and without slack. -/
theorem ofGroups_contains_starts_sample :
    let call := Cst.treeNode ⟨"a.js", "f(\n  x)"⟩ "program" (callOnTwoLines.children.headD default)
    let file : SourceFile := ⟨"a.js", .javaScript, .tsx, [call]⟩
    SourceFile.parse 100 "a.js" .javaScript "f(\n  x)" (fun _ => some callOnTwoLines) = .ok file ∧
      callOnTwoLines.LaidOut ∧
      ∃ clone o, ofGroups 0 [call.depthFirst] = .ok clone ∧ clone.occurrences[0]? = some o ∧
        ∀ n ∈ call.depthFirst, o.start ≤ n.span.start ∧ n.span.start ≤ o.stop := by
  intro call file
  have parsed : SourceFile.parse 100 "a.js" .javaScript "f(\n  x)"
      (fun _ => some callOnTwoLines) = .ok file := rfl
  have laidOut : callOnTwoLines.LaidOut := ⟨by decide, by decide, by decide, by decide⟩
  refine ⟨parsed, laidOut, ?_⟩
  refine ofGroups_contains_starts parsed ?_ List.mem_cons_self 0 ?_ rfl (List.Sublist.refl _)
  · rintro root ⟨⟩
    exact laidOut
  · intro group hg
    obtain rfl := List.mem_singleton.mp hg
    exact List.cons_ne_nil _ _

end Clone

end CodeClones
