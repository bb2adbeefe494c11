import CodeClones.Proofs.Cst.Inversion
import CodeClones.Proofs.Node.Layout

/-!
# Layout of normalised programs

In a concrete tree every node lies inside its parent and behind the sibling before it
(`Tree.LaidOut`). Normalising lifts wrappers, joins texts, drops tokens and counts lines from one; the
result is laid out in the same way all the same. The slots of any part of a tree are arranged in the
stretch that the part takes up (`arranged_treeSlots`, `arranged_partSlots`), and the main statement,
`programNodes_layout`, spells out what follows for every node and for its depth-first walk.
-/

namespace CodeClones.Cst

open Node (Arranged)

namespace Point

/-- Not later: on an earlier row, or not further right on the same one. -/
protected def le (p q : Point) : Prop :=
  p.row < q.row ∨ (p.row = q.row ∧ p.column ≤ q.column)

instance : LE Point := ⟨Point.le⟩

instance (p q : Point) : Decidable (p ≤ q) :=
  inferInstanceAs (Decidable (p.row < q.row ∨ (p.row = q.row ∧ p.column ≤ q.column)))

/-- A point whose row and column a position can hold, the row being counted from one there. -/
def Fits (p : Point) : Prop :=
  p.row < 0xFFFFFFFF ∧ p.column < 0x100000000

instance (p : Point) : Decidable p.Fits :=
  inferInstanceAs (Decidable (p.row < 0xFFFFFFFF ∧ p.column < 0x100000000))

/-- The position of a point that fits has the same column, and the row counted from one. -/
lemma Fits.position {p : Point} (h : p.Fits) :
    p.position.line.toNat = p.row + 1 ∧ p.position.column.toNat = p.column := by
  obtain ⟨hr, hc⟩ := h
  have line : min (p.row + 1) largest = p.row + 1 := Nat.min_eq_left (by rw [largest]; omega)
  have column : min p.column largest = p.column := Nat.min_eq_left (by rw [largest]; omega)
  rw [Point.position, line, column]
  exact ⟨UInt32.toNat_ofNat_of_lt' (by rw [UInt32.size]; omega), UInt32.toNat_ofNat_of_lt' hc⟩

/-- Positions of points that fit have the order of the points. -/
lemma position_le {p q : Point} (hp : p.Fits) (hq : q.Fits) (h : p ≤ q) :
    p.position ≤ q.position := by
  rw [Position.le_iff_toNat, hp.position.1, hp.position.2, hq.position.1, hq.position.2]
  rcases h with h | ⟨h1, h2⟩
  · exact .inl (by omega)
  · exact .inr ⟨by omega, h2⟩

end Point

/-- The layout of concrete trees. -/
structure Tree.LaidOut (root : Tree) : Prop where
  /-- No node ends before it starts. -/
  ordered : ∀ t ∈ root.subtrees, t.start ≤ t.stop
  /-- Every child lies inside its parent. -/
  inside : ∀ t ∈ root.subtrees, ∀ child ∈ t.children, t.start ≤ child.start ∧ child.stop ≤ t.stop
  /-- No child starts before the one in front of it ends. -/
  apart : ∀ t ∈ root.subtrees, t.children.IsChain fun a b => a.stop ≤ b.start
  /-- All points can be held by positions. -/
  fits : ∀ t ∈ root.subtrees, t.start.Fits ∧ t.stop.Fits

/-- Trees that lie between two positions one after the other. -/
abbrev Tree.Tile (lo hi : Position) (trees : List Tree) : Prop :=
  Tiled (·.start.position) (·.stop.position) lo hi trees

namespace Tree.LaidOut

variable {t : Tree}

/-- A child of a tree with this layout has it too. -/
lemma child {c : Tree} (h : t.LaidOut) (hc : c ∈ t.children) : c.LaidOut where
  ordered s hs := h.ordered s (mem_subtrees_of_child hc hs)
  inside s hs := h.inside s (mem_subtrees_of_child hc hs)
  apart s hs := h.apart s (mem_subtrees_of_child hc hs)
  fits s hs := h.fits s (mem_subtrees_of_child hc hs)

/-- A tree does not end before it starts, as positions go. -/
lemma start_le_stop (h : t.LaidOut) : t.start.position ≤ t.stop.position := by
  obtain ⟨hs, he⟩ := h.fits t t.mem_subtrees_self
  exact Point.position_le hs he (h.ordered t t.mem_subtrees_self)

/-- The children of a tree lie inside it one after the other. -/
lemma tile (h : t.LaidOut) : Tile t.start.position t.stop.position t.children := by
  have self := t.mem_subtrees_self
  obtain ⟨hs, he⟩ := h.fits t self
  have inside := h.inside t self
  refine .of_isChain h.start_le_stop ?_ ?_ ?_
  · intro c hc
    have hc := List.mem_of_mem_head? hc
    have fits := (h.child hc).fits c c.mem_subtrees_self
    exact Point.position_le hs fits.1 (inside c hc).1
  · intro c hc
    have fits := (h.child hc).fits c c.mem_subtrees_self
    exact ⟨(h.child hc).start_le_stop, Point.position_le fits.2 he (inside c hc).2⟩
  · have fits : ∀ c ∈ t.children, c.start.Fits ∧ c.stop.Fits := fun c hc =>
      (h.child hc).fits c c.mem_subtrees_self
    exact (h.apart t self).imp_of_mem_imp fun a b ha hb hab =>
      Point.position_le (fits a ha).2 (fits b hb).1 hab

end Tree.LaidOut

section Slots

variable {o : Origin} {parent : String} {lo hi : Position}

/-- The node of a run of text parts lies where the parts lie. -/
lemma arranged_textRun {run : List Tree} (h : Tree.Tile lo hi run) :
    Arranged lo hi (o.textRun run) := by
  cases run with
  | nil => exact Node.arranged_nil h.le
  | cons first rest =>
    obtain ⟨hlo, _, _⟩ := h.bounds_of_mem List.mem_cons_self
    obtain ⟨-, -, hhi⟩ := h.bounds_of_mem (List.getLast_mem (List.cons_ne_nil first rest))
    -- from the start of the first part to the end of the last one the parts themselves lead
    have hle : first.start.position ≤
        ((first :: rest).getLast (List.cons_ne_nil first rest)).stop.position := by
      have from_first : Tree.Tile first.start.position hi (first :: rest) := by
        cases h with
        | cons _ h2 h3 => exact .cons le_rfl h2 h3
      obtain ⟨h1, h2, -⟩ := from_first.bounds_of_mem
        (List.getLast_mem (List.cons_ne_nil first rest))
      exact h1.trans h2
    have nested : (o.textNode first rest).Nested := Node.nested_of_arranged (Node.arranged_nil hle)
    exact nested.arranged.mono hlo hhi

/-- The slots of siblings are arranged where the siblings lie, given that those of each are. -/
lemma arranged_partSlots {children : List Tree}
    (each : ∀ child ∈ children,
      Arranged child.start.position child.stop.position (treeSlots o parent child)) :
    ∀ {run : List Tree} {lo : Position}, Tree.Tile lo hi (run ++ children) →
      Arranged lo hi (partSlots o parent run children) := by
  induction children with
  | nil =>
    intro run lo h
    rw [List.append_nil] at h
    rw [partSlots]
    exact arranged_textRun h
  | cons child children ih =>
    intro run lo h
    have ih := fun {run lo} => @ih (fun c hc => each c (List.mem_cons_of_mem _ hc)) run lo
    rw [partSlots]
    split_ifs
    -- a text part makes the run longer; anything else ends it where the child starts
    · exact ih (by rwa [List.append_assoc, List.singleton_append])
    · obtain ⟨mid, hrun, hrest⟩ := h.split
      cases hrest with
      | cons h1 h2 h3 =>
        have here := (each child List.mem_cons_self).mono h1 le_rfl
        exact ((arranged_textRun hrun).append here).append (ih h3)

/-- Slots of trees that lie one after the other are arranged like the trees. -/
lemma arranged_flatMap {children : List Tree}
    (each : ∀ child ∈ children,
      Arranged child.start.position child.stop.position (treeSlots o parent child))
    (h : Tree.Tile lo hi children) : Arranged lo hi (children.flatMap (treeSlots o parent)) := by
  induction h with
  | nil h => exact Node.arranged_nil h
  | cons h1 h2 _ ih =>
    have here := (each _ List.mem_cons_self).mono h1 le_rfl
    exact here.append (ih fun c hc => each c (List.mem_cons_of_mem _ hc))

/-- The slots of children are arranged where the children lie, given that those of each are. -/
lemma arranged_childSlots {kind : String} {children : List Tree}
    (each : ∀ child ∈ children,
      Arranged child.start.position child.stop.position (treeSlots o kind child))
    (h : Tree.Tile lo hi children) : Arranged lo hi (childSlots o kind children) := by
  rw [childSlots]
  split_ifs
  -- holes take up no place, and leaving marks out cannot break the order
  · have elements := arranged_flatMap (fun c hc => each c (List.mem_filter.mp hc).1)
      (h.sublist (List.filter_sublist (p := fun child => !child.isMark)))
    rw [Arranged, filterMap_elementSlots]
    exact elements
  · exact arranged_partSlots each h

/-- The slots of a tree that is laid out are arranged where the tree lies. -/
lemma arranged_treeSlots (o : Origin) (t : Tree) :
    t.LaidOut → ∀ parent, Arranged t.start.position t.stop.position (treeSlots o parent t) := by
  induction t using Tree.induct with
  | step t ih =>
    intro h parent
    have below : Arranged t.start.position t.stop.position (childSlots o t.kind t.children) :=
      arranged_childSlots (fun c hc => ih c hc (h.child hc) t.kind) h.tile
    rcases treeSlots_cases o parent t with ⟨-, e⟩ | ⟨-, -, e⟩ | ⟨-, -, e⟩
    · rw [e]
      exact Node.arranged_nil h.start_le_stop
    · rw [e]
      exact below
    · have nested : (treeNode o parent t).Nested := by
        apply Node.nested_of_arranged
        rcases treeNode_cases o parent t with ⟨-, e⟩ | ⟨-, -, value, e⟩ | ⟨-, -, e⟩
        · rw [e]
          exact Node.arranged_nil h.start_le_stop
        · rw [e]
          exact Node.arranged_nil h.start_le_stop
        · rw [e]
          exact below
      have alone := nested.arranged
      rw [treeNode_span] at alone
      rw [e]
      exact alone

end Slots

/-- Every node of a program has its children inside it, in order, at every depth. -/
lemma nested_of_mem_programNodes {o : Origin} {root : Tree} (h : root.LaidOut) {n : Node}
    (hn : n ∈ programNodes o root) : n.Nested := by
  have top : Arranged root.start.position root.stop.position
      (childSlots o root.kind root.children) :=
    arranged_childSlots (fun c hc => arranged_treeSlots o c (h.child hc) root.kind) h.tile
  exact top.2 n hn

/-- Normalising keeps the layout. No node of the program, at any depth, ends before it starts, the
nodes in its slots lie inside it and none starts before the one in front of it ends; the same goes for
the nodes at the top. So the depth-first walk of any node never meets a node that starts before one
met earlier. -/
theorem programNodes_layout (o : Origin) (root : Tree) (h : root.LaidOut) :
    (∀ n ∈ (programNodes o root).flatMap Node.subtrees,
      n.span.start ≤ n.span.stop ∧
      (∀ m, some m ∈ n.slots → n.span.start ≤ m.span.start ∧ m.span.stop ≤ n.span.stop) ∧
      (n.slots.filterMap id).IsChain (fun a b => a.span.stop ≤ b.span.start) ∧
      n.depthFirst.Pairwise fun a b => b.startsBefore a = false) ∧
    (programNodes o root).IsChain fun a b => a.span.stop ≤ b.span.start := by
  have top : Arranged root.start.position root.stop.position
      (childSlots o root.kind root.children) :=
    arranged_childSlots (fun c hc => arranged_treeSlots o c (h.child hc) root.kind) h.tile
  refine ⟨?_, top.1.isChain⟩
  intro n hn
  obtain ⟨r, hr, hn⟩ := List.mem_flatMap.mp hn
  have nested : n.Nested := fun m hm => top.2 r hr m (Node.mem_subtrees_trans hn hm)
  have tile := nested n n.mem_subtrees_self
  refine ⟨tile.le, ?_, tile.isChain, ?_⟩
  · intro m hm
    obtain ⟨h1, -, h2⟩ := tile.bounds_of_mem (List.mem_filterMap.mpr ⟨some m, hm, rfl⟩)
    exact ⟨h1, h2⟩
  · refine (Node.depthFirst_sorted nested).imp ?_
    intro a b hab
    exact decide_eq_false (not_lt.mpr hab)

/-- The layout of a program with a hole, a wrapper and a run of two text parts. -/
theorem programNodes_layout_sample :
    let nodes := programNodes ⟨"a.js", "[,(x)];<a>b&lt;</a>"⟩ Tree.sample
    Tree.sample.LaidOut ∧ nodes.length = 2 ∧
      nodes.IsChain (fun a b => a.span.stop ≤ b.span.start) ∧
      ∀ n ∈ nodes, n.depthFirst.Pairwise fun a b => b.startsBefore a = false := by
  intro nodes
  have laidOut : Tree.sample.LaidOut := ⟨by decide, by decide, by decide, by decide⟩
  obtain ⟨each, top⟩ := programNodes_layout ⟨"a.js", "[,(x)];<a>b&lt;</a>"⟩ Tree.sample laidOut
  refine ⟨laidOut, rfl, top, ?_⟩
  intro n hn
  exact (each n (List.mem_flatMap.mpr ⟨n, hn, n.mem_subtrees_self⟩)).2.2.2

end CodeClones.Cst
