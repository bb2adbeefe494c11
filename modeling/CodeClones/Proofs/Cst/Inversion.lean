import CodeClones.Cst.Normal
import CodeClones.Proofs.Cst.Subtrees
import CodeClones.Proofs.Node.Subtrees
import Mathlib.Tactic.SplitIfs

/-!
# Inversion of the normalisation

What the slots of a concrete tree can be, said once for all later proofs. A tree contributes nothing,
the slots of its children, or one node (`treeSlots_cases`); the node is an identifier, a literal or a
node with slots of its own (`treeNode_cases`); and everything in the slots of children is in a run of
text parts or in the slots of one child (`mem_childSlots`). From these follows where any node of a
normalised program can come from: `Made` lists the two ways, and `made_of_mem_programNodes` says that
there is no other.
-/

namespace CodeClones.Cst

open Node (slotSubtrees)

/-- The kinds that become literals. -/
def literalKinds : List String :=
  ["string", "number", "true", "false", "null", "regex"]

/-- Whether nodes of a kind become literals. -/
def isLiteral (kind : String) : Bool :=
  literalKinds.contains kind

/-- Whether a node takes part in normalised trees at all. -/
def Tree.isKept (t : Tree) : Bool :=
  t.named && !isDropped t.kind

/-- Whether a node is one of the marks that divide the elements of a list. -/
def Tree.isMark (t : Tree) : Bool :=
  t.kind == "[" || t.kind == ","

/-- The node that a run of text parts becomes. -/
def Origin.textNode (o : Origin) (first : Tree) (rest : List Tree) : Node where
  kind := .jsxText
  name := none
  value := some (.string (String.join ((first :: rest).map o.partText)))
  span := o.span first.start ((first :: rest).getLast (List.cons_ne_nil first rest)).stop
  slots := []

/-- The node that a tree becomes when it is kept and does not give way to its children. -/
def treeNode (o : Origin) (parent : String) (t : Tree) : Node :=
  let text := t.text o.source
  let span := o.span t.start t.stop
  if isName t.kind then
    { kind := .identifier, name := some text, value := none, span, slots := [] }
  else
    match literalOf? t.kind (parent == "jsx_attribute") text with
    | some value => { kind := .literal, name := none, value := some value, span, slots := [] }
    | none =>
      { kind := .ofTag (nodeTag t.kind t.children), name := none, value := none, span,
        slots := childSlots o t.kind t.children }

section Roles

/-- There is a literal for just the kinds that become literals. -/
lemma isSome_literalOf? (kind : String) (verbatim : Bool) (text : String) :
    (literalOf? kind verbatim text).isSome = isLiteral kind := by
  unfold literalOf?
  split
  case h_7 h1 h2 h3 h4 h5 h6 =>
    have other : kind ∉ literalKinds := by
      simp only [literalKinds, List.mem_cons, List.not_mem_nil, or_false, not_or]
      exact ⟨h1, h2, h3, h4, h5, h6⟩
    exact (Bool.eq_false_iff.mpr fun h => other (List.contains_iff_mem.mp h)).symm
  all_goals rfl

/-- There is no literal for a kind that does not become one. -/
lemma literalOf?_of_not_literal {kind : String} (h : isLiteral kind = false) (verbatim : Bool)
    (text : String) : literalOf? kind verbatim text = none := by
  rw [← Option.isNone_iff_eq_none, ← Option.not_isSome, isSome_literalOf?, h]
  rfl

/-- Wrappers that give way to their children have no holes. -/
lemma allowsHoles_of_isTransparent {kind : String} (h : isTransparent kind) :
    allowsHoles kind = false := by
  have all : ∀ k ∈ transparentKinds, allowsHoles k = false := by decide
  exact all kind (List.contains_iff_mem.mp h)

end Roles

section Slots

variable (o : Origin) (parent : String)

/-- A tree contributes nothing, the slots of its children, or one node. -/
lemma treeSlots_cases (t : Tree) :
    (t.isKept = false ∧ treeSlots o parent t = []) ∨
    (t.isKept ∧ isTransparent t.kind ∧ treeSlots o parent t = childSlots o t.kind t.children) ∨
    (t.isKept ∧ isTransparent t.kind = false ∧
      treeSlots o parent t = [some (treeNode o parent t)]) := by
  obtain ⟨kind, named, isError, isMissing, hasError, firstByte, endByte, start, stop, children⟩ := t
  rw [treeSlots]
  cases hk : (!named || isDropped kind) with
  | true =>
    refine .inl ⟨?_, if_pos rfl⟩
    cases named <;> simp_all [Tree.isKept]
  | false =>
    have kept : named = true ∧ isDropped kind = false := by simpa using hk
    have hk' : (named && !isDropped kind) = true := by simp [kept]
    cases ht : isTransparent kind with
    | true =>
      refine .inr (.inl ⟨hk', rfl, ?_⟩)
      simp [childSlots, allowsHoles_of_isTransparent ht]
    | false =>
      refine .inr (.inr ⟨hk', rfl, ?_⟩)
      -- names and literals end here; only the last case looks at the children
      simp only [Bool.false_eq_true, ↓reduceIte, treeNode, Tree.text, childSlots]
      cases isName kind with
      | true => rfl
      | false =>
        cases literalOf? kind (parent == "jsx_attribute")
            (Text.slice o.source firstByte endByte) with
        | some value => rfl
        | none => rfl

/-- The slots of a tree: none when it is not kept, those of its children when it gives way to them, or
its node. -/
lemma treeSlots_eq (t : Tree) :
    treeSlots o parent t =
      if t.isKept then
        if isTransparent t.kind then childSlots o t.kind t.children else [some (treeNode o parent t)]
      else [] := by
  rcases treeSlots_cases o parent t with ⟨kept, e⟩ | ⟨kept, thin, e⟩ | ⟨kept, solid, e⟩
  · rw [e, if_neg (Bool.eq_false_iff.mp kept)]
  · rw [e, if_pos kept, if_pos thin]
  · rw [e, if_pos kept, if_neg (Bool.eq_false_iff.mp solid)]

/-- A tree that is not kept has no slots. -/
lemma treeSlots_of_not_kept {t : Tree} (h : t.isKept = false) : treeSlots o parent t = [] := by
  rw [treeSlots_eq, if_neg (Bool.eq_false_iff.mp h)]

/-- A node is an identifier, a literal, or has the slots of its children. -/
lemma treeNode_cases (t : Tree) :
    (isName t.kind ∧ treeNode o parent t =
      ⟨.identifier, some (t.text o.source), none, o.span t.start t.stop, []⟩) ∨
    (isName t.kind = false ∧ isLiteral t.kind ∧ ∃ value, treeNode o parent t =
      ⟨.literal, none, some value, o.span t.start t.stop, []⟩) ∨
    (isName t.kind = false ∧ isLiteral t.kind = false ∧ treeNode o parent t =
      ⟨.ofTag (nodeTag t.kind t.children), none, none, o.span t.start t.stop,
        childSlots o t.kind t.children⟩) := by
  have hv := isSome_literalOf? t.kind (parent == "jsx_attribute") (t.text o.source)
  cases hn : isName t.kind with
  | true =>
    refine .inl ⟨rfl, ?_⟩
    simp only [treeNode, hn, ↓reduceIte]
  | false =>
    cases h : literalOf? t.kind (parent == "jsx_attribute") (t.text o.source) with
    | some value =>
      refine .inr (.inl ⟨rfl, ?_, value, ?_⟩)
      · rw [← hv, h, Option.isSome_some]
      · simp only [treeNode, hn, Bool.false_eq_true, ↓reduceIte, h]
    | none =>
      refine .inr (.inr ⟨rfl, ?_, ?_⟩)
      · rw [← hv, h, Option.isSome_none]
      · simp only [treeNode, hn, Bool.false_eq_true, ↓reduceIte, h]

/-- The node of a tree has the extent of the tree. -/
lemma treeNode_span (t : Tree) : (treeNode o parent t).span = o.span t.start t.stop := by
  rcases treeNode_cases o parent t with ⟨-, e⟩ | ⟨-, -, value, e⟩ | ⟨-, -, e⟩ <;> rw [e]

/-- No text parts make no text. -/
@[simp]
lemma textRun_nil : o.textRun [] = [] := rfl

/-- Text parts make one text. -/
@[simp]
lemma textRun_cons (first : Tree) (rest : List Tree) :
    o.textRun (first :: rest) = [some (o.textNode first rest)] := rfl

/-- Without text parts among them, the slots of siblings are those of one after the other. -/
lemma partSlots_eq_flatMap {children : List Tree}
    (h : ∀ child ∈ children, isTextPart child.kind = false) :
    partSlots o parent [] children = children.flatMap (treeSlots o parent) := by
  induction children with
  | nil => rw [partSlots, textRun_nil, List.flatMap_nil]
  | cons child children ih =>
    rw [partSlots, if_neg (Bool.eq_false_iff.mp (h child List.mem_cons_self)), textRun_nil,
      List.nil_append, ih fun c hc => h c (List.mem_cons_of_mem _ hc), List.flatMap_cons]

/-- The slots of a list, one child further. -/
lemma elementSlots_cons (expecting : Bool) (child : Tree) (children : List Tree) :
    elementSlots o parent expecting (child :: children) =
      if child.kind = "[" then elementSlots o parent true children
      else if child.kind = "," then
        (if expecting then [none] else []) ++ elementSlots o parent true children
      else if child.isKept then treeSlots o parent child ++ elementSlots o parent false children
      else elementSlots o parent expecting children := by
  rw [elementSlots, Tree.isKept]

variable {o parent}

/-- A tree that is kept and does not give way to its children has one slot. -/
lemma treeSlots_of_solid {t : Tree} (kept : t.isKept) (solid : isTransparent t.kind = false) :
    treeSlots o parent t = [some (treeNode o parent t)] := by
  rw [treeSlots_eq, if_pos kept, if_neg (Bool.eq_false_iff.mp solid)]

/-- The node of a tree that is no name and no literal has the slots of the children. -/
lemma treeNode_of_inner {t : Tree} (inner : (isName t.kind || isLiteral t.kind) = false) :
    treeNode o parent t = ⟨.ofTag (nodeTag t.kind t.children), none, none, o.span t.start t.stop,
      childSlots o t.kind t.children⟩ := by
  obtain ⟨name, literal⟩ := Bool.or_eq_false_iff.mp inner
  rcases treeNode_cases o parent t with ⟨h, -⟩ | ⟨-, h, -⟩ | ⟨-, -, e⟩
  · rw [name] at h
    cases h
  · rw [literal] at h
    cases h
  · exact e

/-- A node of a run of text parts is the text that they make. -/
lemma mem_textRun {n : Node} {run : List Tree} (h : n ∈ slotSubtrees (o.textRun run)) :
    ∃ first rest, run = first :: rest ∧ n = o.textNode first rest := by
  cases run with
  | nil => simp at h
  | cons first rest =>
    refine ⟨first, rest, rfl, ?_⟩
    obtain ⟨m, hm, hn⟩ := Node.mem_slotSubtrees.mp h
    obtain rfl : m = o.textNode first rest := by simpa using hm
    rcases Node.mem_subtrees.mp hn with e | hn
    · exact e
    · simp [Origin.textNode] at hn

/-- A node below siblings is a text that some of them make, or is below one of them. -/
lemma mem_partSlots {n : Node} {run children : List Tree}
    (h : n ∈ slotSubtrees (partSlots o parent run children)) :
    (∃ first rest, n = o.textNode first rest) ∨
      ∃ child ∈ children, n ∈ slotSubtrees (treeSlots o parent child) := by
  induction children generalizing run with
  | nil =>
    rw [partSlots] at h
    obtain ⟨first, rest, -, e⟩ := mem_textRun h
    exact .inl ⟨first, rest, e⟩
  | cons child children ih =>
    rw [partSlots] at h
    split at h
    · rcases ih h with e | ⟨c, hc, hn⟩
      · exact .inl e
      · exact .inr ⟨c, List.mem_cons_of_mem _ hc, hn⟩
    · rw [Node.slotSubtrees_append, Node.slotSubtrees_append, List.mem_append, List.mem_append] at h
      rcases h with (h | h) | h
      · obtain ⟨first, rest, -, e⟩ := mem_textRun h
        exact .inl ⟨first, rest, e⟩
      · exact .inr ⟨child, List.mem_cons_self, h⟩
      · rcases ih h with e | ⟨c, hc, hn⟩
        · exact .inl e
        · exact .inr ⟨c, List.mem_cons_of_mem _ hc, hn⟩

/-- Holes left out, elements contribute their slots one after the other, marks nothing. -/
lemma filterMap_elementSlots (expecting : Bool) (children : List Tree) :
    (elementSlots o parent expecting children).filterMap id =
      ((children.filter fun child => !child.isMark).flatMap (treeSlots o parent)).filterMap id := by
  induction children generalizing expecting with
  | nil => rw [elementSlots, List.filter_nil, List.flatMap_nil]
  | cons child children ih =>
    have skip (h : child.isMark) :
        (child :: children).filter (fun c => !c.isMark) = children.filter fun c => !c.isMark := by
      simp [h]
    rw [elementSlots]
    -- a bracket, a comma where an element was due, any other comma, and an element or a token
    split_ifs with bracket comma expected kept
    · rw [ih, skip (by simp [Tree.isMark, bracket])]
    · rw [List.singleton_append, List.filterMap_cons_none rfl, ih,
        skip (by simp [Tree.isMark, comma])]
    · rw [List.nil_append, ih, skip (by simp [Tree.isMark, comma])]
    · have mark : child.isMark = false := by simp [Tree.isMark, bracket, comma]
      rw [List.filterMap_append, ih, List.filter_cons_of_pos (by simp [mark]), List.flatMap_cons,
        List.filterMap_append]
    · have mark : child.isMark = false := by simp [Tree.isMark, bracket, comma]
      have nothing : treeSlots o parent child = [] :=
        treeSlots_of_not_kept o parent (Bool.eq_false_iff.mpr kept)
      rw [ih, List.filter_cons_of_pos (by simp [mark]), List.flatMap_cons, nothing, List.nil_append]

/-- A node below the elements of a list is below one of them. -/
lemma mem_elementSlots {n : Node} {expecting : Bool} {children : List Tree}
    (h : n ∈ slotSubtrees (elementSlots o parent expecting children)) :
    ∃ child ∈ children, n ∈ slotSubtrees (treeSlots o parent child) := by
  rw [Node.slotSubtrees_eq_flatMap, filterMap_elementSlots, ← Node.slotSubtrees_eq_flatMap] at h
  obtain ⟨m, hm, hn⟩ := Node.mem_slotSubtrees.mp h
  obtain ⟨child, hc, hm⟩ := List.mem_flatMap.mp hm
  exact ⟨child, (List.mem_filter.mp hc).1, Node.mem_slotSubtrees.mpr ⟨m, hm, hn⟩⟩

/-- In the slots of children there are nodes of text runs and of single children. -/
lemma mem_childSlots {n : Node} {kind : String} {children : List Tree}
    (h : n ∈ slotSubtrees (childSlots o kind children)) :
    (∃ first rest, n = o.textNode first rest) ∨
      ∃ child ∈ children, n ∈ slotSubtrees (treeSlots o kind child) := by
  rw [childSlots] at h
  split at h
  · exact .inr (mem_elementSlots h)
  · exact mem_partSlots h

end Slots

/-- The two ways in which a node of a normalised program comes about. -/
inductive Made (o : Origin) : Node → Prop where
  /-- Text parts that stand side by side are joined. -/
  | text (first : Tree) (rest : List Tree) : Made o (o.textNode first rest)
  /-- A kept tree that does not give way to its children is turned into a node. -/
  | tree (parent : String) (t : Tree) :
    t.isKept → isTransparent t.kind = false → Made o (treeNode o parent t)

/-- Every node below a tree has come about in one of the two ways. -/
lemma made_of_mem_treeSlots {o : Origin} {n : Node} (t : Tree) :
    ∀ {parent}, n ∈ slotSubtrees (treeSlots o parent t) → Made o n := by
  induction t using Tree.induct with
  | step t ih =>
    intro parent h
    -- the children are the same whether the tree gives way to them or keeps them
    have below : n ∈ slotSubtrees (childSlots o t.kind t.children) → Made o n := by
      intro h
      rcases mem_childSlots h with ⟨first, rest, rfl⟩ | ⟨child, hc, hn⟩
      · exact .text first rest
      · exact ih child hc hn
    rcases treeSlots_cases o parent t with ⟨-, e⟩ | ⟨-, -, e⟩ | ⟨kept, solid, e⟩
    · simp [e] at h
    · exact below (e ▸ h)
    · obtain ⟨m, hm, hn⟩ := Node.mem_slotSubtrees.mp h
      obtain rfl : m = treeNode o parent t := by simpa [e] using hm
      rcases Node.mem_subtrees.mp hn with rfl | hn
      · exact .tree parent t kept solid
      · rcases treeNode_cases o parent t with ⟨-, e⟩ | ⟨-, -, value, e⟩ | ⟨-, -, e⟩
        · simp [e] at hn
        · simp [e] at hn
        · rw [e] at hn
          exact below hn

/-- The nodes of a program, at every depth, are those below the children of its root. -/
lemma flatMap_subtrees_programNodes (o : Origin) (root : Tree) :
    (programNodes o root).flatMap Node.subtrees =
      slotSubtrees (childSlots o root.kind root.children) :=
  (Node.slotSubtrees_eq_flatMap _).symm

/-- Every node of a program, at any depth, is made in one of the two ways. -/
theorem made_of_mem_programNodes {o : Origin} {root : Tree} {n : Node}
    (h : n ∈ (programNodes o root).flatMap Node.subtrees) : Made o n := by
  rw [flatMap_subtrees_programNodes] at h
  rcases mem_childSlots h with ⟨first, rest, rfl⟩ | ⟨child, -, hn⟩
  · exact .text first rest
  · exact made_of_mem_treeSlots child hn

/-- A node carries the name of the file that it was made from. -/
lemma Made.filename {o : Origin} {n : Node} (made : Made o n) : n.span.filename = o.filename := by
  cases made with
  | text first rest => rfl
  | tree parent t kept solid =>
    rw [treeNode_span]
    rfl

end CodeClones.Cst
