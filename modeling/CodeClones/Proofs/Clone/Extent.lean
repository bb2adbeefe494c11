import CodeClones.Proofs.Clone.Bounds
import Mathlib.Order.Bounds.Defs

/-!
# How the bounds of an occurrence are chosen

The bounds of a group, whatever the order of its nodes. The start is the least start. The end is the
lowest end of a node, or the base when that end is too many lines further down; both are positions of
nodes, the base is never below the lowest end, and neither is above the line on which a node starts. It
is enough that no node ends before it starts. The main statement is `ofGroup?_extent`.
-/

namespace CodeClones.Bounds

/-- A fold that keeps one of two items at each step ends with one of the items. -/
lemma foldl_mem {α : Type} {keep : α → α → α} (one : ∀ x y, keep x y = x ∨ keep x y = y)
    (first : α) (rest : List α) : rest.foldl keep first ∈ first :: rest := by
  induction rest generalizing first with
  | nil => exact List.mem_singleton_self first
  | cons next rest ih =>
    rw [List.foldl_cons]
    rcases List.mem_cons.mp (ih (keep first next)) with e | later
    · rw [e]
      rcases one first next with e | e
      · rw [e]
        exact List.mem_cons_self
      · rw [e]
        exact List.mem_cons_of_mem _ List.mem_cons_self
    · exact List.mem_cons_of_mem _ (List.mem_cons_of_mem _ later)

/-- The lowest of some positions is one of them. -/
lemma lowest_mem (first : Position) (rest : List Position) : lowest first rest ∈ first :: rest := by
  refine foldl_mem (fun p q => ?_) first rest
  rw [Position.lowerOf]
  split_ifs
  · exact .inl rfl
  · exact .inr rfl

/-- The lower of two positions is on a line not above that of either. -/
lemma line_le_lowerOf (p q : Position) :
    p.line ≤ (p.lowerOf q).line ∧ q.line ≤ (p.lowerOf q).line := by
  rw [Position.lowerOf]
  split_ifs with lower
  · exact ⟨UInt32.le_refl _, UInt32.le_of_lt lower⟩
  · exact ⟨UInt32.not_lt.mp lower, UInt32.le_refl _⟩

/-- No position is on a line below that of the lowest one. -/
lemma line_le_lowest (first : Position) (rest : List Position) :
    ∀ p ∈ first :: rest, p.line ≤ (lowest first rest).line := by
  induction rest generalizing first with
  | nil =>
    intro p hp
    rw [List.mem_singleton.mp hp]
    exact UInt32.le_refl _
  | cons next rest ih =>
    have later := ih (first.lowerOf next)
    obtain ⟨from_first, from_next⟩ := line_le_lowerOf first next
    have kept := later _ List.mem_cons_self
    intro p hp
    rcases List.mem_cons.mp hp with rfl | hp
    · exact UInt32.le_trans from_first kept
    · rcases List.mem_cons.mp hp with rfl | hp
      · exact UInt32.le_trans from_next kept
      · exact later p (List.mem_cons_of_mem _ hp)

section Group

variable (first : Node) (rest : List Node)

/-- The lowest of some positions of nodes is such a position, on the greatest of their lines. -/
lemma lowest_map (f : Node → Position) :
    (∃ n ∈ first :: rest, lowest (f first) (rest.map f) = f n) ∧
      IsGreatest { line | ∃ n ∈ first :: rest, (f n).line = line }
        (lowest (f first) (rest.map f)).line := by
  have mem := lowest_mem (f first) (rest.map f)
  rw [← List.map_cons, List.mem_map] at mem
  obtain ⟨n, hn, e⟩ := mem
  refine ⟨⟨n, hn, e.symm⟩, ⟨n, hn, by rw [e]⟩, ?_⟩
  rintro line ⟨m, hm, rfl⟩
  exact line_le_lowest _ _ _ (List.mem_map_of_mem hm)

/-- Some node of the group starts at the start of its occurrence. -/
lemma start_mem : ∃ n ∈ first :: rest, n.span.start = start first rest := by
  refine ⟨_, foldl_mem (fun earliest n => ?_) first rest, rfl⟩
  split_ifs
  · exact .inr rfl
  · exact .inl rfl

/-- The start of an occurrence is the least of its nodes' starts. -/
lemma isLeast_start : IsLeast { p | ∃ n ∈ first :: rest, n.span.start = p } (start first rest) := by
  refine ⟨start_mem first rest, ?_⟩
  rintro p ⟨n, hn, rfl⟩
  exact start_le first rest n hn

/-- The base is the start or the end of a node, and no node starts on a lower line. -/
lemma base_spec :
    (∃ n ∈ first :: rest, base first rest = n.span.start ∨ base first rest = n.span.stop) ∧
      ∀ n ∈ first :: rest, n.span.start.line ≤ (base first rest).line := by
  obtain ⟨⟨m, hm, e⟩, -, greatest⟩ := lowest_map first rest (·.span.start)
  rw [base]
  split_ifs with leaf
  · refine ⟨⟨_, List.getLast_mem _, .inr rfl⟩, ?_⟩
    intro n hn
    exact UInt32.le_trans (greatest ⟨n, hn, rfl⟩) (UInt32.le_of_lt leaf.1)
  · exact ⟨⟨m, hm, .inl e⟩, fun n hn => greatest ⟨n, hn, rfl⟩⟩

end Group

/-- A position that is not behind another is not on a later line. -/
lemma line_le_of_le {p q : Position} (h : p ≤ q) : p.line ≤ q.line := by
  rw [UInt32.le_iff_toNat_le]
  rw [Position.le_iff_toNat] at h
  omega

section Forward

variable {first : Node} {rest : List Node}
  (forward : ∀ n ∈ first :: rest, n.span.start ≤ n.span.stop)
include forward

/-- No node starts or ends below the line of the lowest end, and the base is at a start or an end. -/
lemma base_line_le :
    (base first rest).line ≤ (lowest first.span.stop (rest.map (·.span.stop))).line := by
  obtain ⟨-, -, greatest⟩ := lowest_map first rest (·.span.stop)
  obtain ⟨⟨n, hn, e⟩, -⟩ := base_spec first rest
  have lowest_end := greatest ⟨n, hn, rfl⟩
  rcases e with e | e
  · rw [e]
    exact UInt32.le_trans (line_le_of_le (forward n hn)) lowest_end
  · rw [e]
    exact lowest_end

/-- Whichever way the end is chosen, it is the start or the end of a node, and no node starts on a
lower line. -/
lemma stop_spec (slack : UInt32) :
    (∃ n ∈ first :: rest, stop slack first rest = n.span.start ∨
        stop slack first rest = n.span.stop) ∧
      ∀ n ∈ first :: rest, n.span.start.line ≤ (stop slack first rest).line := by
  obtain ⟨⟨m, hm, e⟩, -, greatest⟩ := lowest_map first rest (·.span.stop)
  rw [stop]
  split_ifs with near
  · refine ⟨⟨m, hm, .inr e⟩, ?_⟩
    intro n hn
    exact UInt32.le_trans (line_le_of_le (forward n hn)) (greatest ⟨n, hn, rfl⟩)
  · exact base_spec first rest

/-- An occurrence does not end in front of its start. -/
lemma start_le_stop (slack : UInt32) : start first rest ≤ stop slack first rest := by
  obtain ⟨⟨n, hn, e⟩, -⟩ := stop_spec forward slack
  have from_start := start_le first rest n hn
  rcases e with e | e
  · rw [e]
    exact from_start
  · rw [e]
    exact from_start.trans (forward n hn)

end Forward

/-- The bounds of a group of nodes in any order, none of which ends before it starts. The group starts
with the least of its starts. It ends not before that, at the start or the end of one of its nodes, on a
line not above any start. That line is the greatest on which a node ends, when it is at most `slack`
lines past the base line, and the base line otherwise. The base line is the greatest on which a node
starts, or the one on which the last node ends when that is greater and the node has no children. -/
theorem ofGroup?_extent {group : List Node} (full : group ≠ [])
    (forward : ∀ n ∈ group, n.span.start ≤ n.span.stop) (slack : UInt32) :
    ∃ start stop, ofGroup? slack group = some (start, stop) ∧
      IsLeast { p | ∃ n ∈ group, n.span.start = p } start ∧
      start ≤ stop ∧
      (∃ n ∈ group, stop = n.span.start ∨ stop = n.span.stop) ∧
      (∀ n ∈ group, start.line ≤ n.span.start.line ∧ n.span.start.line ≤ stop.line) ∧
      ∃ lowestStart lowestEnd baseLine last,
        IsGreatest { line | ∃ n ∈ group, n.span.start.line = line } lowestStart ∧
        IsGreatest { line | ∃ n ∈ group, n.span.stop.line = line } lowestEnd ∧
        group.getLast? = some last ∧
        (baseLine = if lowestStart < last.span.stop.line ∧ last.isLeaf then last.span.stop.line
          else lowestStart) ∧
        baseLine ≤ lowestEnd ∧
        stop.line =
          if lowestEnd.toNat - baseLine.toNat ≤ slack.toNat then lowestEnd else baseLine := by
  cases group with
  | nil => exact absurd rfl full
  | cons first rest =>
    obtain ⟨stop_mem, stop_low⟩ := stop_spec forward slack
    refine ⟨start first rest, stop slack first rest, rfl, isLeast_start first rest,
      start_le_stop forward slack, stop_mem, ?_, ?_⟩
    · intro n hn
      exact ⟨line_le_of_le (start_le first rest n hn), stop_low n hn⟩
    · refine ⟨_, _, (base first rest).line, _, (lowest_map first rest (·.span.start)).2,
        (lowest_map first rest (·.span.stop)).2, List.getLast?_eq_getLast_of_ne_nil full, ?_,
        base_line_le forward, ?_⟩
      · rw [base, apply_ite Position.line]
      · rw [stop, apply_ite Position.line]

/-- Two nodes, of which the second starts first and is the last of the group. It has only blank text
below it and ends one line below the start of the other, which ends far below. -/
def outOfOrder : List Node :=
  [⟨.other "IfStatement", none, none, ⟨"a.js", ⟨3, 0⟩, ⟨9, 1⟩⟩, []⟩,
    ⟨.other "JSXElement", none, none, ⟨"a.js", ⟨1, 4⟩, ⟨4, 2⟩⟩,
      [none, some ⟨.jsxText, none, some (.string " "), ⟨"a.js", ⟨2, 0⟩, ⟨3, 0⟩⟩, []⟩]⟩]

/-- With a slack of two lines the end stays at the base, which is the end of the last node. -/
theorem ofGroup?_extent_outOfOrder :
    outOfOrder ≠ [] ∧ (∀ n ∈ outOfOrder, n.span.start ≤ n.span.stop) ∧
      ofGroup? 2 outOfOrder = some (⟨1, 4⟩, ⟨4, 2⟩) ∧
      IsLeast { p | ∃ n ∈ outOfOrder, n.span.start = p } ⟨1, 4⟩ ∧
      ∀ n ∈ outOfOrder, 1 ≤ n.span.start.line ∧ n.span.start.line ≤ 4 := by
  have full : outOfOrder ≠ [] := List.cons_ne_nil _ _
  have forward : ∀ n ∈ outOfOrder, n.span.start ≤ n.span.stop := by decide
  have value : ofGroup? 2 outOfOrder = some (⟨1, 4⟩, ⟨4, 2⟩) := rfl
  obtain ⟨start, stop, found, least, -, -, lines, -⟩ := ofGroup?_extent full forward 2
  cases value.symm.trans found
  exact ⟨full, forward, value, least, lines⟩

end CodeClones.Bounds
