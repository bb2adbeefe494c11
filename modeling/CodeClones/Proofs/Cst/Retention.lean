import CodeClones.Proofs.Cst.Inversion

/-!
# What the normalisation retains

Normalising a program loses nothing, repeats nothing and keeps the order. Which nodes of a concrete
tree are retained is said on the concrete tree alone: `retainedBelow` lists them in source order,
without slots, holes or a separate way for the elements of arrays. The main statement,
`programNodes_retention`, sets this list against the nodes of the normalised program, one by one with
their kinds and extents. It asks of the concrete tree what grammars promise (`Tree.Conforms`).
-/

namespace CodeClones.Cst

open Node (slotSubtrees)

/-- What a concrete tree has that a normalised tree has one node for. -/
inductive Retained where
  | node (t : Tree)
  /-- A run of text parts that stand side by side. -/
  | text (first : Tree) (rest : List Tree)

/-- The kind of the node that stands for something retained. -/
def Retained.kind : Retained → Kind
  | node t =>
    if isName t.kind then .identifier
    else if isLiteral t.kind then .literal
    else .ofTag (nodeTag t.kind t.children)
  | text _ _ => .jsxText

/-- The extent of something retained: a run goes from the start of its first part to the end of its
last one. -/
def Retained.span (o : Origin) : Retained → Span
  | node t => o.span t.start t.stop
  | text first rest =>
    o.span first.start ((first :: rest).getLast (List.cons_ne_nil first rest)).stop

/-- Whether a node is a part of a text. -/
def Tree.isText (t : Tree) : Bool :=
  t.named && isTextPart t.kind

mutual

/-- What is retained of a node that is no text part. A node that is not named, or of a kind that is
dropped, goes with all that is below it. Of a wrapper only what is below it is retained, and nothing
is below a name or a literal. -/
def retained : Tree → List Retained
  | ⟨kind, named, isError, isMissing, hasError, firstByte, endByte, start, stop, children⟩ =>
    if !named || isDropped kind then []
    else if isTransparent kind then retainedBelow false children
    else
      .node ⟨kind, named, isError, isMissing, hasError, firstByte, endByte, start, stop, children⟩ ::
        if isName kind || isLiteral kind then [] else retainedBelow false children

/-- What is retained of siblings. A text part opens a run unless one stands right before it, and the
run goes on as far as text parts follow. -/
def retainedBelow (afterText : Bool) : List Tree → List Retained
  | [] => []
  | child :: rest =>
    if child.isText then
      (if afterText then [] else [.text child (rest.takeWhile Tree.isText)]) ++
        retainedBelow true rest
    else retained child ++ retainedBelow false rest

end

/-- What grammars promise about the kinds of nodes and tokens. -/
structure Tree.Conforms (root : Tree) : Prop where
  /-- Brackets and commas are tokens. -/
  marks : ∀ t ∈ root.subtrees, t.isMark → t.named = false
  /-- Text parts are named. -/
  texts : ∀ t ∈ root.subtrees, isTextPart t.kind → t.named
  /-- No text part is an element of a list with holes. -/
  lists : ∀ t ∈ root.subtrees, allowsHoles t.kind →
    ∀ child ∈ t.children, isTextPart child.kind = false

/-- What grammars promise of a tree they promise of its children. -/
lemma Tree.Conforms.child {t child : Tree} (h : t.Conforms) (hc : child ∈ t.children) :
    child.Conforms where
  marks s hs := h.marks s (mem_subtrees_of_child hc hs)
  texts s hs := h.texts s (mem_subtrees_of_child hc hs)
  lists s hs := h.lists s (mem_subtrees_of_child hc hs)

end CodeClones.Cst
