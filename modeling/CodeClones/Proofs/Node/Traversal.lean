import CodeClones.Node.Walk
import CodeClones.Proofs.Node.Subtrees
import Mathlib.Data.List.Nodup
import Mathlib.Data.List.Perm.Basic

/-!
# Walks against the shape of the tree

What the walks visit, said without a stack or a queue. The pre-order of a tree is a plain recursion
over slots, a level is what stands at one depth, and a place is the way of slots that leads to a node;
nothing stands behind a hole or a blank node. A stack holds trees whose pre-orders are still to come
(`visitStack_eq_flatMap`). A queue holds the rest of one level and, behind it, the front of the next
(`visitQueue_append`). The main statement is `walks_follow_tree`.
-/

namespace CodeClones.Node

mutual

/-- A node, and then the pre-orders of its children from left to right. -/
def preOrder : Node → List Node
  | ⟨kind, name, value, span, slots⟩ => ⟨kind, name, value, span, slots⟩ :: slotPreOrders slots

/-- The pre-orders of what is in a list of slots; holes and blank nodes are passed over. -/
def slotPreOrders : List (Option Node) → List Node
  | [] => []
  | none :: rest => slotPreOrders rest
  | some n :: rest => if n.isBlank then slotPreOrders rest else preOrder n ++ slotPreOrders rest

end

/-- The nodes at a depth, from left to right. -/
def level : Node → Nat → List Node
  | n, 0 => [n]
  | n, depth + 1 => n.children.flatMap fun child => child.level depth

/-- What is in a slot; nothing is there when it is a hole, blank, or no slot at all. -/
def slot? (slots : List (Option Node)) (i : Nat) : Option Node :=
  (slots[i]?.join).filter fun n => !n.isBlank

/-- The node at a place, which is the slots to go through one after the other. -/
def at? (n : Node) : List Nat → Option Node
  | [] => some n
  | i :: place => (slot? n.slots i).bind fun child => child.at? place

/-- A listing that shows the node at each place where there is one, every place exactly once. -/
def Enumerates {κ : Type} (find : κ → Option Node) (listing : List Node) : Prop :=
  ∃ places : List κ, places.Nodup ∧ (∀ place, place ∈ places ↔ (find place).isSome) ∧
    List.Forall₂ (fun place n => find place = some n) places listing

/-! ### Depth first -/

/-- Slots are gone through by the nodes present in them. -/
lemma slotPreOrders_eq_flatMap (slots : List (Option Node)) :
    slotPreOrders slots = (present slots).flatMap preOrder := by
  induction slots with
  | nil => rw [slotPreOrders, present_nil, List.flatMap_nil]
  | cons slot rest ih =>
    cases slot with
    | none => rw [slotPreOrders, present_hole, ih]
    | some n =>
      rw [slotPreOrders, present_some, ih]
      split
      · rfl
      · rw [List.flatMap_cons]

/-- A node comes first, and then its children with what is below them. -/
lemma preOrder_eq (n : Node) : n.preOrder = n :: n.children.flatMap preOrder := by
  cases n with
  | mk kind name value span slots => rw [preOrder, slotPreOrders_eq_flatMap, children]

/-- A walk from a stack gives the pre-orders of the trees on it, topmost first. -/
lemma visitStack_eq_flatMap (waiting : List Node) :
    visitStack waiting = waiting.flatMap preOrder := by
  induction waiting using visitStack.induct with
  | case1 => rw [visitStack, List.flatMap_nil]
  | case2 n waiting ih =>
    rw [visitStack, ih, List.flatMap_append, List.flatMap_cons, preOrder_eq, List.cons_append]

/-- A walk in depth visits the nodes in pre-order. -/
lemma depthFirst_eq_preOrder (n : Node) : n.depthFirst = n.preOrder := by
  rw [depthFirst, descendants, visitStack_eq_flatMap, preOrder_eq]

/-! ### Breadth first -/

/-- A queue whose front is a whole level ends up with the next level behind what it held. -/
lemma visitQueue_append (front back : List Node) :
    visitQueue (front ++ back) = front ++ visitQueue (back ++ front.flatMap children) := by
  induction front generalizing back with
  | nil => rw [List.nil_append, List.flatMap_nil, List.append_nil, List.nil_append]
  | cons n front ih =>
    rw [List.cons_append, visitQueue, List.append_assoc, ih, List.flatMap_cons, List.append_assoc,
      List.cons_append]

/-- The nodes one level down are the children of those on a level. -/
lemma level_succ (n : Node) (depth : Nat) :
    n.level (depth + 1) = (n.level depth).flatMap children := by
  induction depth generalizing n with
  | zero => simp [level]
  | succ depth ih =>
    have below : (fun child : Node => child.level (depth + 1)) =
        fun child => (child.level depth).flatMap children := funext ih
    rw [level, below, ← List.flatMap_assoc, ← level]

/-- A walk in breadth visits a level and goes on with the next. -/
lemma visitQueue_level (n : Node) (depth : Nat) :
    visitQueue (n.level depth) = n.level depth ++ visitQueue (n.level (depth + 1)) := by
  have h := visitQueue_append (n.level depth) []
  rwa [List.append_nil, List.nil_append, ← level_succ] at h

/-- After some levels the queue holds the level that comes next. -/
lemma visitQueue_levels (n : Node) (depth : Nat) :
    visitQueue [n] = (List.range depth).flatMap n.level ++ visitQueue (n.level depth) := by
  induction depth with
  | zero => rfl
  | succ depth ih =>
    rw [ih, visitQueue_level, List.range_succ, List.flatMap_append, List.flatMap_singleton,
      List.append_assoc]

/-- A tree has no more nodes than the forest it is in. -/
lemma size_le_forestSize {n : Node} {nodes : List Node} (h : n ∈ nodes) :
    n.size ≤ forestSize nodes := by
  induction h with
  | head rest => exact Nat.le_add_right _ _
  | tail m _ ih => exact Nat.le_trans ih (Nat.le_add_left _ _)

/-- A tree has fewer levels than nodes, or as many. -/
lemma level_eq_nil {n : Node} {depth : Nat} (h : n.size ≤ depth) : n.level depth = [] := by
  induction depth generalizing n with
  | zero =>
    have := forestSize_children_lt n
    omega
  | succ depth ih =>
    rw [level, List.flatMap_eq_nil_iff]
    intro child hc
    have := size_le_forestSize hc
    have := forestSize_children_lt n
    exact ih (by omega)

/-- A walk in breadth visits one level after the other. -/
lemma breadthFirst_eq_levels (n : Node) :
    n.breadthFirst = (List.range n.size).flatMap n.level := by
  rw [breadthFirst, visitQueue_levels n n.size, level_eq_nil (Nat.le_refl _), visitQueue, List.append_nil]

/-- A walk in breadth visits what the pre-orders of the waiting nodes visit. -/
lemma visitQueue_perm (waiting : List Node) :
    (visitQueue waiting).Perm (waiting.flatMap preOrder) := by
  induction waiting using visitQueue.induct with
  | case1 =>
    rw [visitQueue, List.flatMap_nil]
  | case2 n waiting ih =>
    -- a queue takes the children behind what waits, the pre-order has them in front of it
    rw [visitQueue, List.flatMap_cons, preOrder_eq, List.cons_append]
    refine List.Perm.cons n (ih.trans ?_)
    rw [List.flatMap_append]
    exact List.perm_append_comm

/-- The two walks visit the same nodes. -/
lemma breadthFirst_perm_depthFirst (n : Node) : n.breadthFirst.Perm n.depthFirst := by
  have h := visitQueue_perm [n]
  rwa [List.flatMap_singleton, ← depthFirst_eq_preOrder] at h

/-! ### Places -/

namespace Enumerates

variable {κ κ₁ κ₂ : Type} {find : κ → Option Node} {find₁ : κ₁ → Option Node}
  {find₂ : κ₂ → Option Node} {listing listing₁ listing₂ : List Node}

/-- Where there is no place, nothing is to be shown. -/
lemma nil (h : ∀ place, find place = none) : Enumerates find [] := by
  refine ⟨[], .nil, ?_, .nil⟩
  intro place
  simp [h place]

/-- A listing in another order shows the same. -/
lemma perm (h : Enumerates find listing₁) (p : listing₁.Perm listing₂) :
    Enumerates find listing₂ := by
  obtain ⟨places, nodup, mem, shown⟩ := h
  obtain ⟨places', shown', p'⟩ := List.perm_comp_forall₂ p.symm shown.flip
  refine ⟨places', p'.symm.nodup nodup, ?_, shown'.flip⟩
  intro place
  rw [← mem, p'.mem_iff]

/-- Where places come in two kinds, a listing of the first kind and one of the second make one. -/
lemma append (into₁ : κ₁ → κ) (into₂ : κ₂ → κ) (h₁ : Enumerates find₁ listing₁)
    (h₂ : Enumerates find₂ listing₂) (inj₁ : into₁.Injective) (inj₂ : into₂.Injective)
    (apart : ∀ p₁ p₂, into₁ p₁ ≠ into₂ p₂)
    (cover : ∀ place, (∃ p₁, into₁ p₁ = place) ∨ ∃ p₂, into₂ p₂ = place)
    (same₁ : ∀ p₁, find (into₁ p₁) = find₁ p₁) (same₂ : ∀ p₂, find (into₂ p₂) = find₂ p₂) :
    Enumerates find (listing₁ ++ listing₂) := by
  obtain ⟨places₁, nodup₁, mem₁, shown₁⟩ := h₁
  obtain ⟨places₂, nodup₂, mem₂, shown₂⟩ := h₂
  refine ⟨places₁.map into₁ ++ places₂.map into₂, ?_, ?_, ?_⟩
  · refine List.nodup_append.mpr ⟨List.Nodup.map inj₁ nodup₁, List.Nodup.map inj₂ nodup₂, ?_⟩
    simp only [List.mem_map]
    rintro _ ⟨p₁, -, rfl⟩ _ ⟨p₂, -, rfl⟩
    exact apart p₁ p₂
  · intro place
    rw [List.mem_append, List.mem_map, List.mem_map]
    rcases cover place with ⟨p₁, rfl⟩ | ⟨p₂, rfl⟩
    · simp [inj₁.eq_iff, same₁, mem₁, fun p₂ => (apart p₁ p₂).symm]
    · simp [inj₂.eq_iff, same₂, mem₂, fun p₁ => apart p₁ p₂]
  · refine List.rel_append ?_ ?_
    · rw [List.forall₂_map_left_iff]
      exact shown₁.imp fun place n h => (same₁ place).trans h
    · rw [List.forall₂_map_left_iff]
      exact shown₂.imp fun place n h => (same₂ place).trans h

end Enumerates

/-- Where the way below a list of slots leads: the slot to go through first, and the rest. -/
def below? (slots : List (Option Node)) (way : Nat × List Nat) : Option Node :=
  (slot? slots way.1).bind fun child => child.at? way.2

/-- The ways through the first slot, and those through the others with their slots counted on. -/
lemma enumerates_slot_append {slot : Option Node} {rest : List (Option Node)}
    {find : List Nat → Option Node} {listing others : List Node} (first : Enumerates find listing)
    (same : ∀ p, below? (slot :: rest) (0, p) = find p) (next : Enumerates (below? rest) others) :
    Enumerates (below? (slot :: rest)) (listing ++ others) := by
  refine .append (fun p => (0, p)) (fun way => (way.1 + 1, way.2)) first next ?_ ?_ ?_ ?_
    same fun _ => rfl
  · intro p q e
    exact (Prod.mk.inj e).2
  · rintro ⟨i, p⟩ ⟨j, q⟩ e
    simpa using e
  · intro p way e
    exact absurd (Prod.mk.inj e).1 (Nat.succ_ne_zero _).symm
  · rintro ⟨i, p⟩
    cases i with
    | zero => exact .inl ⟨p, rfl⟩
    | succ i => exact .inr ⟨(i, p), rfl⟩

/-- A slot with nothing to visit in it is passed over. -/
lemma enumerates_slot_skip {slot : Option Node} {rest : List (Option Node)} {others : List Node}
    (skipped : slot? (slot :: rest) 0 = none) (next : Enumerates (below? rest) others) :
    Enumerates (below? (slot :: rest)) others := by
  have none_here : Enumerates (fun _ : List Nat => none) [] := .nil fun _ => rfl
  refine enumerates_slot_append none_here (fun p => ?_) next
  rw [below?, skipped, Option.bind_none]

/-- Pre-orders that show what is below each node show what is below the slots. -/
lemma enumerates_slots {slots : List (Option Node)}
    (h : ∀ n, some n ∈ slots → Enumerates n.at? n.preOrder) :
    Enumerates (below? slots) (slotPreOrders slots) := by
  induction slots with
  | nil =>
    rw [slotPreOrders]
    exact .nil fun _ => rfl
  | cons slot rest ih =>
    have others := ih fun n hn => h n (List.mem_cons_of_mem _ hn)
    cases slot with
    | none =>
      rw [slotPreOrders]
      exact enumerates_slot_skip rfl others
    | some n =>
      rw [slotPreOrders]
      split
      · next blank => exact enumerates_slot_skip (by simp [slot?, blank]) others
      · next visible =>
        refine enumerates_slot_append (h n List.mem_cons_self) (fun p => ?_) others
        simp [below?, slot?, Option.filter_some, visible]

/-- The pre-order of a node shows every place below it exactly once. -/
lemma enumerates_preOrder (n : Node) : Enumerates n.at? n.preOrder := by
  induction n using Node.induct with
  | step n ih =>
    have self : Enumerates (fun _ : Unit => some n) [n] :=
      ⟨[()], by simp, by simp, .cons rfl .nil⟩
    rw [preOrder_eq, children, ← slotPreOrders_eq_flatMap, ← List.singleton_append]
    refine .append (fun _ => []) (fun way => way.1 :: way.2) self (enumerates_slots ih) ?_ ?_ ?_ ?_
      (fun _ => rfl) fun _ => rfl
    · exact Function.injective_of_subsingleton _
    · rintro ⟨i, p⟩ ⟨j, q⟩ e
      simpa using e
    · exact fun _ _ => (List.cons_ne_nil _ _).symm
    · intro place
      cases place with
      | nil => exact .inl ⟨(), rfl⟩
      | cons i p => exact .inr ⟨(i, p), rfl⟩

/-- The depth-first walk is the pre-order of the tree, the walk below a node is the same without the
node, and the breadth-first walk is the levels of the tree one after the other, until there are none.
The two walks visit the same nodes, and each of them shows the node at every place exactly once. -/
theorem walks_follow_tree (n : Node) :
    n.depthFirst = n.preOrder ∧
    n.descendants = n.depthFirst.tail ∧
    n.breadthFirst = (List.range n.size).flatMap n.level ∧
    (∀ depth, n.size ≤ depth → n.level depth = []) ∧
    n.breadthFirst.Perm n.depthFirst ∧
    Enumerates n.at? n.depthFirst ∧
    Enumerates n.at? n.breadthFirst := by
  have places : Enumerates n.at? n.depthFirst := by
    rw [depthFirst_eq_preOrder]
    exact enumerates_preOrder n
  refine ⟨depthFirst_eq_preOrder n, rfl, breadthFirst_eq_levels n, ?_,
    breadthFirst_perm_depthFirst n, places, places.perm (breadthFirst_perm_depthFirst n).symm⟩
  intro depth h
  exact level_eq_nil h

end CodeClones.Node
