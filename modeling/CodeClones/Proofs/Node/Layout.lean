import CodeClones.Node.Walk
import CodeClones.Proofs.Node.Subtrees
import Mathlib.Data.List.Chain
import Mathlib.Order.Defs.LinearOrder

/-!
# Nested and ordered spans

Positions are linearly ordered. Items with a start and an end tile a stretch when they lie in it one
after the other (`Tiled`), and a node is nested when the nodes in its slots tile its own span, and so
on below (`Node.Nested`). The depth-first walk of a nested node meets starts in order
(`Node.depthFirst_sorted`): what waits on the stack always tiles the stretch from the last start on.
-/

namespace CodeClones

namespace Position

/-- A position is not behind another on an earlier line, or on the same line in a column that is not
later. -/
lemma le_iff_toNat {p q : Position} :
    p ≤ q ↔ p.line.toNat < q.line.toNat ∨
      (p.line.toNat = q.line.toNat ∧ p.column.toNat ≤ q.column.toNat) := by
  show (p.line < q.line ∨ (p.line = q.line ∧ p.column ≤ q.column)) ↔ _
  rw [UInt32.lt_iff_toNat_lt, UInt32.le_iff_toNat_le, ← UInt32.toNat_inj]

/-- A position is before another on an earlier line, or on the same line in an earlier column. -/
lemma lt_iff_toNat {p q : Position} :
    p < q ↔ p.line.toNat < q.line.toNat ∨
      (p.line.toNat = q.line.toNat ∧ p.column.toNat < q.column.toNat) := by
  show (p.line < q.line ∨ (p.line = q.line ∧ p.column < q.column)) ↔ _
  rw [UInt32.lt_iff_toNat_lt, UInt32.lt_iff_toNat_lt, ← UInt32.toNat_inj]

instance : LinearOrder Position where
  le := (· ≤ ·)
  lt := (· < ·)
  le_refl p := by
    rw [le_iff_toNat]
    omega
  le_trans p q r hpq hqr := by
    rw [le_iff_toNat] at *
    omega
  lt_iff_le_not_ge p q := by
    rw [lt_iff_toNat, le_iff_toNat, le_iff_toNat]
    omega
  le_antisymm p q hpq hqp := by
    obtain ⟨line, column⟩ := p
    obtain ⟨line', column'⟩ := q
    rw [le_iff_toNat] at *
    rw [mk.injEq, ← UInt32.toNat_inj, ← UInt32.toNat_inj]
    simp only at hpq hqp
    omega
  le_total p q := by
    rw [le_iff_toNat, le_iff_toNat]
    omega
  toDecidableLE := inferInstance

end Position

/-- Items that lie between two positions one after the other. -/
inductive Tiled {α : Type} (start stop : α → Position) : Position → Position → List α → Prop where
  | nil {lo hi} :
    lo ≤ hi →
    Tiled start stop lo hi []
  | cons {lo hi x rest} :
    lo ≤ start x →
    start x ≤ stop x →
    Tiled start stop (stop x) hi rest →
    Tiled start stop lo hi (x :: rest)

namespace Tiled

variable {α : Type} {start stop : α → Position} {lo mid hi : Position} {xs ys : List α}

/-- Items that lie between two positions lie between positions in order. -/
lemma le (h : Tiled start stop lo hi xs) : lo ≤ hi := by
  induction h with
  | nil h => exact h
  | cons h1 h2 _ ih => exact h1.trans (h2.trans ih)

/-- Items that lie between two positions lie between any two further apart. -/
lemma mono {lo' hi' : Position} (hlo : lo' ≤ lo) (hhi : hi ≤ hi') (h : Tiled start stop lo hi xs) :
    Tiled start stop lo' hi' xs := by
  induction h generalizing lo' with
  | nil h => exact .nil (hlo.trans (h.trans hhi))
  | cons h1 h2 _ ih => exact .cons (hlo.trans h1) h2 (ih le_rfl hhi)

/-- Items up to a position and items from there on lie one after the other. -/
lemma append (hx : Tiled start stop lo mid xs) (hy : Tiled start stop mid hi ys) :
    Tiled start stop lo hi (xs ++ ys) := by
  induction hx with
  | nil h => exact hy.mono h le_rfl
  | cons h1 h2 _ ih => exact .cons h1 h2 (ih hy)

/-- Items one after the other can be parted at a position. -/
lemma split (h : Tiled start stop lo hi (xs ++ ys)) :
    ∃ mid, Tiled start stop lo mid xs ∧ Tiled start stop mid hi ys := by
  induction xs generalizing lo with
  | nil => exact ⟨lo, .nil le_rfl, h⟩
  | cons x xs ih =>
    cases h with
    | cons h1 h2 h3 =>
      obtain ⟨mid, hx, hy⟩ := ih h3
      exact ⟨mid, .cons h1 h2 hx, hy⟩

/-- Some of the items lie one after the other as well. -/
lemma sublist (h : Tiled start stop lo hi ys) (s : xs.Sublist ys) : Tiled start stop lo hi xs := by
  induction s generalizing lo with
  | slnil => exact h
  | cons y _ ih =>
    cases h with
    | cons h1 h2 h3 => exact ih (h3.mono (h1.trans h2) le_rfl)
  | cons_cons y _ ih =>
    cases h with
    | cons h1 h2 h3 => exact .cons h1 h2 (ih h3)

/-- Every item lies in the stretch and does not end before it starts. -/
lemma bounds_of_mem {x : α} (h : Tiled start stop lo hi xs) (hx : x ∈ xs) :
    lo ≤ start x ∧ start x ≤ stop x ∧ stop x ≤ hi := by
  induction h with
  | nil _ => cases hx
  | cons h1 h2 h3 ih =>
    rcases List.mem_cons.mp hx with rfl | hx
    · exact ⟨h1, h2, h3.le⟩
    · obtain ⟨hlo, hmid, hhi⟩ := ih hx
      exact ⟨h1.trans (h2.trans hlo), hmid, hhi⟩

/-- No item starts before the one in front of it stops. -/
lemma isChain (h : Tiled start stop lo hi xs) : xs.IsChain fun x y => stop x ≤ start y := by
  induction h with
  | nil _ => exact .nil
  | cons _ _ h3 ih =>
    cases h3 with
    | nil _ => exact .singleton _
    | cons h _ _ => exact .cons_cons h ih

/-- Items in a chain tile a stretch that starts before the first and that none ends behind. -/
lemma of_isChain (hle : lo ≤ hi) (first : ∀ x ∈ xs.head?, lo ≤ start x)
    (inside : ∀ x ∈ xs, start x ≤ stop x ∧ stop x ≤ hi)
    (chain : xs.IsChain fun x y => stop x ≤ start y) : Tiled start stop lo hi xs := by
  induction xs generalizing lo with
  | nil => exact .nil hle
  | cons x xs ih =>
    obtain ⟨h1, h2⟩ := inside x List.mem_cons_self
    obtain ⟨next, chain⟩ := List.isChain_cons.mp chain
    refine .cons (first x rfl) h1 (ih h2 next ?_ chain)
    exact fun y hy => inside y (List.mem_cons_of_mem _ hy)

end Tiled

namespace Node

/-- Nodes that lie between two positions one after the other. -/
abbrev Tile (lo hi : Position) (nodes : List Node) : Prop :=
  Tiled (·.span.start) (·.span.stop) lo hi nodes

/-- A node whose span is tiled by the nodes in its slots, and so on at every depth. -/
def Nested (n : Node) : Prop :=
  ∀ m ∈ n.subtrees, Tile m.span.start m.span.stop (m.slots.filterMap id)

/-- The slots of nested nodes that lie between two positions one after the other. -/
def Arranged (lo hi : Position) (slots : List (Option Node)) : Prop :=
  Tile lo hi (slots.filterMap id) ∧ ∀ n ∈ slots.filterMap id, n.Nested

/-- Slots up to a position and slots from there on can be joined. -/
lemma Arranged.append {lo mid hi : Position} {slots slots' : List (Option Node)}
    (h : Arranged lo mid slots) (h' : Arranged mid hi slots') : Arranged lo hi (slots ++ slots') := by
  refine ⟨?_, ?_⟩
  · rw [List.filterMap_append]
    exact h.1.append h'.1
  · intro n hn
    rw [List.filterMap_append, List.mem_append] at hn
    exact hn.elim (h.2 n) (h'.2 n)

/-- Slots between two positions are between any two further apart. -/
lemma Arranged.mono {lo lo' hi hi' : Position} {slots : List (Option Node)} (hlo : lo' ≤ lo)
    (hhi : hi ≤ hi') (h : Arranged lo hi slots) : Arranged lo' hi' slots :=
  ⟨h.1.mono hlo hhi, h.2⟩

/-- No slots at all fit between any two positions in order. -/
lemma arranged_nil {lo hi : Position} (h : lo ≤ hi) : Arranged lo hi [] :=
  ⟨.nil h, fun _ hn => nomatch hn⟩

/-- A node whose slots are arranged inside its span is nested. -/
lemma nested_of_arranged {n : Node} (h : Arranged n.span.start n.span.stop n.slots) :
    n.Nested := by
  intro m hm
  rcases mem_subtrees.mp hm with rfl | hm
  · exact h.1
  · rw [slotSubtrees_eq_flatMap] at hm
    obtain ⟨k, hk, hm⟩ := List.mem_flatMap.mp hm
    exact h.2 k hk m hm

/-- A nested node alone is arranged in its own span. -/
lemma Nested.arranged {n : Node} (h : n.Nested) : Arranged n.span.start n.span.stop [some n] := by
  have hle : n.span.start ≤ n.span.stop := (h n n.mem_subtrees_self).le
  refine ⟨.cons le_rfl hle (.nil le_rfl), ?_⟩
  intro m hm
  obtain rfl : m = n := by simpa using hm
  exact h

/-- The nodes in the slots of a nested node are nested. -/
lemma Nested.slot {n m : Node} (h : n.Nested) (hm : m ∈ n.slots.filterMap id) : m.Nested := by
  intro k hk
  refine h k (mem_subtrees.mpr (.inr ?_))
  rw [slotSubtrees_eq_flatMap]
  exact List.mem_flatMap.mpr ⟨m, hm, hk⟩

/-- The children of a node are among the nodes in its slots, in the same order. -/
lemma children_sublist (n : Node) : n.children.Sublist (n.slots.filterMap id) :=
  List.filter_sublist

/-- What a walk meets from a stack of nested nodes starts no earlier than the stack, and in order. -/
lemma visitStack_sorted (waiting : List Node) :
    ∀ {lo hi : Position}, Tile lo hi waiting → (∀ n ∈ waiting, n.Nested) →
      (∀ m ∈ visitStack waiting, lo ≤ m.span.start) ∧
        (visitStack waiting).Pairwise fun a b => a.span.start ≤ b.span.start := by
  induction waiting using visitStack.induct with
  | case1 =>
    intro lo hi _ _
    rw [visitStack]
    exact ⟨List.forall_mem_nil _, .nil⟩
  | case2 n waiting ih =>
    intro lo hi tile nested
    have hn := nested n List.mem_cons_self
    have children := (hn n n.mem_subtrees_self).sublist n.children_sublist
    cases tile with
    | cons h1 h2 h3 =>
      -- the children take the place of the node, in front of what waited behind it
      have tile' : Tile n.span.start hi (n.children ++ waiting) := children.append h3
      have nested' : ∀ m ∈ n.children ++ waiting, m.Nested := by
        intro m hm
        rcases List.mem_append.mp hm with hm | hm
        · exact hn.slot (n.children_sublist.subset hm)
        · exact nested m (List.mem_cons_of_mem _ hm)
      obtain ⟨later, sorted⟩ := ih tile' nested'
      rw [visitStack]
      refine ⟨?_, List.pairwise_cons.mpr ⟨later, sorted⟩⟩
      intro m hm
      rcases List.mem_cons.mp hm with rfl | hm
      · exact h1
      · exact h1.trans (later m hm)

/-- A walk in depth visits only what is below the nodes that wait. -/
lemma mem_visitStack {m : Node} (waiting : List Node) (h : m ∈ visitStack waiting) :
    ∃ n ∈ waiting, m ∈ n.subtrees := by
  induction waiting using visitStack.induct with
  | case1 =>
    rw [visitStack] at h
    cases h
  | case2 n waiting ih =>
    rw [visitStack] at h
    rcases List.mem_cons.mp h with rfl | h
    · exact ⟨m, List.mem_cons_self, m.mem_subtrees_self⟩
    · obtain ⟨k, hk, hm⟩ := ih h
      rcases List.mem_append.mp hk with hk | hk
      · have slot : some k ∈ n.slots := by simpa using n.children_sublist.subset hk
        have below : m ∈ n.subtrees :=
          mem_subtrees.mpr (.inr (mem_slotSubtrees.mpr ⟨k, slot, hm⟩))
        exact ⟨n, List.mem_cons_self, below⟩
      · exact ⟨k, List.mem_cons_of_mem _ hk, hm⟩

/-- The walk from one waiting node is the walk from that node. -/
lemma visitStack_singleton (n : Node) : visitStack [n] = n.depthFirst := by
  rw [visitStack, List.append_nil, depthFirst, descendants]

/-- A walk in depth visits only what is below the node. -/
lemma mem_subtrees_of_mem_depthFirst {m n : Node} (h : m ∈ n.depthFirst) : m ∈ n.subtrees := by
  rw [← visitStack_singleton] at h
  obtain ⟨k, hk, hm⟩ := mem_visitStack [n] h
  rwa [List.mem_singleton.mp hk] at hm

/-- The depth-first walk of a nested node meets starts in order. -/
theorem depthFirst_sorted {n : Node} (h : n.Nested) :
    n.depthFirst.Pairwise fun a b => a.span.start ≤ b.span.start := by
  have nested : ∀ m ∈ [n], m.Nested := by
    intro m hm
    obtain rfl := List.mem_singleton.mp hm
    exact h
  rw [← visitStack_singleton]
  exact (visitStack_sorted [n] h.arranged.1 nested).2

end Node

end CodeClones
