import CodeClones.Proofs.Cst.Inversion

/-!
# Elements left out of a list

Between its brackets a list is a row of segments with commas between them, and a segment holds an element
or none (`Bracketed`). Walking along the row, only one thing is remembered: whether an element is due. So
a segment that a comma ends contributes its element or a hole (`elementSlots_ended`), whatever was before
it, and the last one contributes nothing but its element. `treeSlots_bracketed` says this for the whole
list, and that its slots are as many as its elements, given or left out, where each element has one slot.
-/

namespace CodeClones.Cst

/-- What stands between two marks of a list: an element or none, and around it comments and other nodes
that take no part. The marks themselves belong to no segment. -/
structure Segment where
  before : List Tree
  element : Option Tree
  after : List Tree
  isElement : ∀ e ∈ element, e.isKept ∧ e.isMark = false
  areIdle : ∀ t ∈ before ++ after, t.isKept = false ∧ t.isMark = false

namespace Segment

def nodes (s : Segment) : List Tree :=
  s.before ++ (s.element.toList ++ s.after)

/-- The slots of the element, or the given ones where there is none. -/
def slotsOr (o : Origin) (kind : String) (otherwise : List (Option Node)) (s : Segment) :
    List (Option Node) :=
  s.element.elim otherwise (treeSlots o kind)

end Segment

/-- A list in brackets. -/
structure Bracketed where
  opening : Tree
  /-- The segments that a comma ends, each with its comma. -/
  ended : List (Segment × Tree)
  last : Segment
  closing : Tree
  isOpening : opening.kind = "["
  areCommas : ∀ s ∈ ended, s.2.kind = ","
  isClosing : closing.kind = "]" ∧ closing.named = false

namespace Bracketed

def nodes (b : Bracketed) : List Tree :=
  b.opening :: (b.ended.flatMap (fun s => s.1.nodes ++ [s.2]) ++ (b.last.nodes ++ [b.closing]))

def elements (b : Bracketed) : List Tree :=
  b.ended.filterMap (fun s => s.1.element) ++ b.last.element.toList

/-- The length of the list: a comma counts for the element before it, given or left out, and so a comma
at the end does not count once more. -/
def length (b : Bracketed) : Nat :=
  b.ended.length + if b.last.element.isSome then 1 else 0

/-- A hole for every element that is left out, the slots of the other elements in between. -/
def slots (o : Origin) (kind : String) (b : Bracketed) : List (Option Node) :=
  b.ended.flatMap (fun s => s.1.slotsOr o kind [none]) ++ b.last.slotsOr o kind []

end Bracketed

section Walk

variable {o : Origin} {kind : String}

/-- What is no mark is neither an opening bracket nor a comma. -/
lemma isMark_eq_false_iff {t : Tree} : t.isMark = false ↔ t.kind ≠ "[" ∧ t.kind ≠ "," := by
  simp [Tree.isMark]

/-- Nodes that take no part contribute nothing, and leave an element due or not as it was. -/
lemma elementSlots_idle {nodes : List Tree}
    (idle : ∀ t ∈ nodes, t.isKept = false ∧ t.isMark = false) (expecting : Bool) (rest : List Tree) :
    elementSlots o kind expecting (nodes ++ rest) = elementSlots o kind expecting rest := by
  induction nodes with
  | nil => rfl
  | cons t nodes ih =>
    obtain ⟨kept, mark⟩ := idle t List.mem_cons_self
    obtain ⟨bracket, comma⟩ := isMark_eq_false_iff.mp mark
    rw [List.cons_append, elementSlots_cons, if_neg bracket, if_neg comma,
      if_neg (Bool.eq_false_iff.mp kept)]
    exact ih fun s hs => idle s (List.mem_cons_of_mem t hs)

/-- An element contributes its slots, and behind it no element is due. -/
lemma elementSlots_element {e : Tree} (h : e.isKept ∧ e.isMark = false) (expecting : Bool)
    (rest : List Tree) :
    elementSlots o kind expecting (e :: rest) =
      treeSlots o kind e ++ elementSlots o kind false rest := by
  obtain ⟨bracket, comma⟩ := isMark_eq_false_iff.mp h.2
  rw [elementSlots_cons, if_neg bracket, if_neg comma, if_pos h.1]

/-- Behind a segment an element is due exactly when the segment has none. -/
lemma elementSlots_segment (s : Segment) (rest : List Tree) :
    elementSlots o kind true (s.nodes ++ rest) =
      s.slotsOr o kind [] ++ elementSlots o kind s.element.isNone rest := by
  obtain ⟨before, element, after, isElement, areIdle⟩ := s
  rw [List.forall_mem_append] at areIdle
  rw [Segment.nodes, List.append_assoc, elementSlots_idle areIdle.1, List.append_assoc]
  cases element with
  | none => exact elementSlots_idle areIdle.2 true rest
  | some e =>
    rw [Option.toList_some, List.singleton_append, elementSlots_element (isElement e rfl),
      elementSlots_idle areIdle.2]
    rfl

/-- A comma ends a segment: without an element there is a hole. -/
lemma elementSlots_ended (s : Segment) {comma : Tree} (isComma : comma.kind = ",")
    (rest : List Tree) :
    elementSlots o kind true (s.nodes ++ comma :: rest) =
      s.slotsOr o kind [none] ++ elementSlots o kind true rest := by
  have noBracket : comma.kind ≠ "[" := by rw [isComma]; decide
  rw [elementSlots_segment, elementSlots_cons, if_neg noBracket, if_pos isComma, Segment.slotsOr,
    Segment.slotsOr]
  cases s.element with
  | none => rfl
  | some e => rfl

/-- Each segment that a comma ends contributes its element or a hole. -/
lemma elementSlots_flatMap {ended : List (Segment × Tree)} (areCommas : ∀ s ∈ ended, s.2.kind = ",")
    (rest : List Tree) :
    elementSlots o kind true (ended.flatMap (fun s => s.1.nodes ++ [s.2]) ++ rest) =
      ended.flatMap (fun s => s.1.slotsOr o kind [none]) ++ elementSlots o kind true rest := by
  induction ended with
  | nil => rfl
  | cons s ended ih =>
    have isComma := areCommas s List.mem_cons_self
    rw [List.flatMap_cons, List.append_assoc, List.append_assoc, List.singleton_append,
      elementSlots_ended s.1 isComma, ih fun s hs => areCommas s (List.mem_cons_of_mem _ hs),
      List.flatMap_cons, List.append_assoc]

/-- A list contributes a hole for every element left out, and the slots of the others. -/
lemma elementSlots_bracketed (b : Bracketed) : elementSlots o kind false b.nodes = b.slots o kind := by
  obtain ⟨closingKind, token⟩ := b.isClosing
  have idle : ∀ t ∈ [b.closing], t.isKept = false ∧ t.isMark = false := by
    rintro _ (_ | ⟨_, ⟨⟩⟩)
    rw [Tree.isKept, token, Tree.isMark, closingKind]
    decide
  have closing : elementSlots o kind b.last.element.isNone [b.closing] = [] := by
    rw [← List.append_nil [b.closing], elementSlots_idle idle, elementSlots]
  rw [Bracketed.nodes, elementSlots_cons, if_pos b.isOpening, elementSlots_flatMap b.areCommas,
    elementSlots_segment, closing, List.append_nil, Bracketed.slots]

end Walk

namespace Bracketed

variable {o : Origin} {kind : String}

/-- Where every element has one slot, the slots are counted like the elements. -/
lemma length_slots (b : Bracketed) (single : ∀ e ∈ b.elements, (treeSlots o kind e).length = 1) :
    (b.slots o kind).length = b.length := by
  rw [elements, List.forall_mem_append] at single
  have ended : ∀ s ∈ b.ended, (s.1.slotsOr o kind [none]).length = 1 := by
    intro s hs
    rw [Segment.slotsOr]
    cases element : s.1.element with
    | none => rfl
    | some e => exact single.1 e (List.mem_filterMap.mpr ⟨s, hs, element⟩)
  have last : (b.last.slotsOr o kind []).length = if b.last.element.isSome then 1 else 0 := by
    rw [Segment.slotsOr]
    cases element : b.last.element with
    | none => rfl
    | some e => exact single.2 e (by simp [element])
  rw [slots, length, List.length_append, last, List.length_flatMap, List.map_congr_left ended,
    List.map_const', List.sum_replicate_nat, Nat.mul_one]

end Bracketed

/-- A list in brackets becomes one node. Its slots are those of its elements, with a hole for every element
that is left out before a comma. Where every element has one slot, there are as many as the list is
long. -/
theorem treeSlots_bracketed (o : Origin) (parent : String) (t : Tree) (b : Bracketed)
    (named : t.named) (list : t.kind = "array" ∨ t.kind = "array_pattern")
    (children : t.children = b.nodes) :
    ∃ n, treeSlots o parent t = [some n] ∧ n.slots = b.slots o t.kind ∧
      ((∀ e ∈ b.elements, (treeSlots o t.kind e).length = 1) → n.slots.length = b.length) := by
  have roles : isDropped t.kind = false ∧ isTransparent t.kind = false ∧
      (isName t.kind || isLiteral t.kind) = false ∧ allowsHoles t.kind := by
    rcases list with kind | kind <;> rw [kind] <;> decide
  obtain ⟨stays, solid, inner, holes⟩ := roles
  have kept : t.isKept := by rw [Tree.isKept, named, stays]; rfl
  have slots : (treeNode o parent t).slots = b.slots o t.kind := by
    rw [treeNode_of_inner inner, childSlots, if_pos holes, children, elementSlots_bracketed]
  refine ⟨treeNode o parent t, treeSlots_of_solid kept solid, slots, ?_⟩
  intro single
  rw [slots, b.length_slots single]

/-- The list `[,/**/(x),,]`: nothing, an element in parentheses behind a comment, and nothing twice. -/
def sparse : Bracketed :=
  let x : Tree := .onFirstRow "parenthesized_expression" true 6 9 [
    .onFirstRow "(" false 6 7 [], .onFirstRow "identifier" true 7 8 [], .onFirstRow ")" false 8 9 []]
  let nothing : Segment := ⟨[], none, [], by simp, by simp⟩
  { opening := .onFirstRow "[" false 0 1 []
    ended := [
      (nothing, .onFirstRow "," false 1 2 []),
      (⟨[.onFirstRow "comment" true 2 6 []], some x, [], by decide, by decide⟩,
        .onFirstRow "," false 9 10 []),
      (nothing, .onFirstRow "," false 10 11 [])]
    last := nothing
    closing := .onFirstRow "]" false 11 12 []
    isOpening := rfl
    areCommas := by decide
    isClosing := ⟨rfl, rfl⟩ }

/-- Three slots: a hole, the element without its parentheses, and a hole, but none for the last comma. -/
theorem treeSlots_bracketed_sparse :
    ∃ n, treeSlots ⟨"a.js", "[,/**/(x),,]"⟩ "program" (.onFirstRow "array" true 0 12 sparse.nodes) =
        [some n] ∧
      n.slots.map (fun slot => slot.bind Node.name) = [none, some "x", none] ∧ n.slots.length = 3 := by
  obtain ⟨n, whole, slots, length⟩ := treeSlots_bracketed ⟨"a.js", "[,/**/(x),,]"⟩ "program"
    (.onFirstRow "array" true 0 12 sparse.nodes) sparse rfl (.inl rfl) rfl
  exact ⟨n, whole, by rw [slots]; decide +kernel, length (by decide +kernel)⟩

end CodeClones.Cst
