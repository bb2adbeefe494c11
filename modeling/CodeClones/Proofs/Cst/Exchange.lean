import CodeClones.Proofs.Cst.Inversion
import CodeClones.Proofs.Node.Relocation
import Mathlib.Data.List.Forall2
import Mathlib.Data.List.ReduceOption

/-!
# Children in place of others

What a normalised program owes to a concrete node is what the parent and the siblings of the node see
of it. `StandsIn` says of two trees that neither can tell them apart, and `Outcome` of a child that it
may go or that another may stand in for it. Children can be exchanged without a trace when their
outcomes keep text parts apart: `same_childSlots` and `nodeTag_outcomes` say so for what is below a
node, `StandsIn.of_outcomes` for the node itself and `same_programNodes` for a program.

Two programs are compared under a `Comparison`, which says what of a span counts.
-/

namespace CodeClones.Cst

open Node (relocate relocateSlots)

/-- How two programs are compared: where they come from and what is read of a span. -/
structure Comparison where
  left : Origin
  right : Origin
  /-- What is read of a span. -/
  read : Span → Span
  /-- Points that make no difference to what is read. -/
  near : Point → Point → Prop
  read_span : ∀ {p p' q q' : Point},
    near p p' → near q q' → read (right.span p' q') = read (left.span p q)

namespace Comparison

/-- The comparison of programs of one origin in which all of a span counts. -/
def exact (o : Origin) : Comparison where
  left := o
  right := o
  read := id
  near := Eq
  read_span := by
    rintro p _ q _ rfl rfl
    rfl

/-- The comparison in which nothing of a span counts. -/
def unlocated (o o' : Origin) : Comparison where
  left := o
  right := o'
  read := fun _ => default
  near := fun _ _ => True
  read_span := fun _ _ => rfl

variable {c : Comparison}

/-- Slots that are read alike. -/
def Same (c : Comparison) (slots slots' : List (Option Node)) : Prop :=
  relocateSlots c.read slots' = relocateSlots c.read slots

/-- Slots that are read alike can be joined with others that are. -/
lemma Same.append {xs xs' ys ys' : List (Option Node)} (hx : c.Same xs xs') (hy : c.Same ys ys') :
    c.Same (xs ++ ys) (xs' ++ ys') := by
  rw [Same, Node.relocateSlots_append, Node.relocateSlots_append, hx, hy]

/-- Slots are read like themselves. -/
lemma Same.refl (slots : List (Option Node)) : c.Same slots slots := rfl

/-- Text parts that are read alike. -/
def SamePart (c : Comparison) (t t' : Tree) : Prop :=
  c.right.partText t' = c.left.partText t ∧ c.near t.start t'.start ∧ c.near t.stop t'.stop

/-- Trees that are read alike, their children apart. The text counts only where it is used. -/
structure Alike (c : Comparison) (t t' : Tree) : Prop where
  kind : t'.kind = t.kind
  named : t'.named = t.named
  start : c.near t.start t'.start
  stop : c.near t.stop t'.stop
  text : isName t.kind ∨ isLiteral t.kind ∨ isTextPart t.kind →
    t'.text c.right.source = t.text c.left.source

end Comparison

/-- The kinds that a parent looks for among its children. -/
def watchedKinds (parent : String) : List String :=
  if allowsHoles parent then ["[", ","]
  else if parent = "export_statement" then ["default", "*", "namespace_export"]
  else []

/-- Whether a parent looks for children of a kind. -/
def isWatched (parent kind : String) : Bool :=
  (watchedKinds parent).contains kind

/-- A parent looks for brackets and commas where there may be holes, and for three kinds in an export. -/
lemma isWatched_cases {parent kind : String} (h : isWatched parent kind) :
    (allowsHoles parent ∧ (kind = "[" ∨ kind = ",")) ∨
    (parent = "export_statement" ∧ (kind = "default" ∨ kind = "*" ∨ kind = "namespace_export")) := by
  rw [isWatched, watchedKinds] at h
  split_ifs at h with holes export_
  · exact .inl ⟨holes, by simpa using h⟩
  · exact .inr ⟨export_, by simpa using h⟩
  · cases h

/-- A tree that cannot be told from another by its parent and its siblings. -/
structure StandsIn (c : Comparison) (parent : String) (t t' : Tree) : Prop where
  slots : c.Same (treeSlots c.left parent t) (treeSlots c.right parent t')
  kept : t'.isKept = t.isKept
  watched : isWatched parent t.kind ∨ isWatched parent t'.kind → t'.kind = t.kind
  text : isTextPart t'.kind = isTextPart t.kind
  part : isTextPart t.kind → c.SamePart t t'

/-- What may become of a child: it goes when nobody sees it, or another stands in for it. -/
inductive Outcome (c : Comparison) (parent : String) (child : Tree) : Option Tree → Prop where
  | gone :
    child.isKept = false →
    isTextPart child.kind = false →
    isWatched parent child.kind = false →
    Outcome c parent child none
  | replaced {child'} :
    StandsIn c parent child child' →
    Outcome c parent child (some child')

/-- Whether the first of some siblings is a text part. -/
def startsWithText (siblings : List Tree) : Bool :=
  siblings.head?.any fun t => isTextPart t.kind

/-- Whether a gap comes first, and a text part right behind it in what is left. -/
def textBehindGap (remains : List (Option Tree)) : Bool :=
  remains.head?.any Option.isNone && startsWithText remains.reduceOption

/-- Whether no text parts have become neighbours where children have gone. -/
def textsApart : List (Option Tree) → Bool
  | [] => true
  | none :: rest => textsApart rest
  | some t :: rest => !(isTextPart t.kind && textBehindGap rest) && textsApart rest

/-- What a parent does not look for is none of the kinds that it looks for. -/
lemma ne_of_not_watched {parent kind watched : String} (h : isWatched parent kind = false)
    (hw : isWatched parent watched) : kind ≠ watched := by
  rintro rfl
  rw [h] at hw
  cases hw

/-- A tree and one that stands in for it are of a watched kind together. -/
lemma StandsIn.kind_iff {c : Comparison} {parent kind : String} {t t' : Tree}
    (h : StandsIn c parent t t') (hk : isWatched parent kind) : t'.kind = kind ↔ t.kind = kind := by
  constructor
  · rintro rfl
    exact (h.watched (.inr hk)).symm
  · rintro rfl
    exact h.watched (.inl hk)

section Siblings

variable {c : Comparison} {parent : String} {children : List Tree} {remains : List (Option Tree)}

/-- Lists that are related entry by entry have related last entries. -/
lemma forall₂_getLast {α : Type} {R : α → α → Prop} {xs ys : List α} (h : List.Forall₂ R xs ys) :
    ∀ (hx : xs ≠ []) (hy : ys ≠ []), R (xs.getLast hx) (ys.getLast hy) := by
  induction h with
  | nil => exact fun hx => (hx rfl).elim
  | cons head tail ih =>
    intro _ _
    cases tail with
    | nil => exact head
    | cons next tail => exact ih (List.cons_ne_nil _ _) (List.cons_ne_nil _ _)

/-- Text parts that are read alike have the same texts. -/
lemma map_partText {run run' : List Tree} (h : List.Forall₂ c.SamePart run run') :
    run'.map c.right.partText = run.map c.left.partText := by
  induction h with
  | nil => rfl
  | cons head _ ih => rw [List.map_cons, List.map_cons, head.1, ih]

/-- Runs of text parts that are read alike become texts that are. -/
lemma same_textRun {run run' : List Tree} (h : List.Forall₂ c.SamePart run run') :
    c.Same (c.left.textRun run) (c.right.textRun run') := by
  have texts := map_partText h
  cases h with
  | nil => exact .refl []
  | @cons first first' rest rest' head tail =>
    -- the node of a run starts with the first part and stops with the last
    have last := forall₂_getLast (.cons head tail) (List.cons_ne_nil first rest)
      (List.cons_ne_nil first' rest')
    rw [Comparison.Same, textRun_cons, textRun_cons]
    simp only [relocateSlots, Node.relocate_eq, Origin.textNode, texts,
      c.read_span head.2.1 last.2.2]

/-- A run ends where no text part follows. -/
lemma partSlots_flush {o : Origin} {run : List Tree} (h : run = [] ∨ startsWithText children = false) :
    partSlots o parent run children = o.textRun run ++ partSlots o parent [] children := by
  rcases h with rfl | h
  · rw [textRun_nil, List.nil_append]
  · cases children with
    | nil => simp [partSlots]
    | cons child children =>
      have other : ¬ isTextPart child.kind := by simpa [startsWithText] using h
      rw [partSlots, if_neg other, partSlots, if_neg other, textRun_nil, List.nil_append,
        List.append_assoc]

/-- The slots of parts are read alike after any run that has not ended yet, as long as no text part
comes next to the run by a gap. -/
lemma same_partSlots (h : List.Forall₂ (Outcome c parent) children remains) :
    ∀ {run run' : List Tree}, List.Forall₂ c.SamePart run run' → textsApart remains →
      (run = [] ∨ textBehindGap remains = false) →
      c.Same (partSlots c.left parent run children)
        (partSlots c.right parent run' remains.reduceOption) := by
  induction h with
  | nil =>
    intro run run' hrun _ _
    rw [List.reduceOption_nil, partSlots, partSlots]
    exact same_textRun hrun
  | @cons child left children remains outcome _ ih =>
    intro run run' hrun apart open_
    cases outcome with
    | gone kept text _ =>
      have ends : run' = [] ∨ startsWithText remains.reduceOption = false := by
        rcases open_ with rfl | h
        · exact .inl (List.forall₂_nil_left_iff.mp hrun)
        · exact .inr (by simpa [textBehindGap] using h)
      rw [List.reduceOption_cons_of_none, partSlots_flush ends, partSlots,
        if_neg (Bool.eq_false_iff.mp text), treeSlots_of_not_kept _ _ kept, List.append_nil]
      exact (same_textRun hrun).append (ih .nil apart (.inl rfl))
    | @replaced child' stands =>
      rw [textsApart, Bool.and_eq_true] at apart
      rw [List.reduceOption_cons_of_some, partSlots, partSlots, stands.text]
      split_ifs with text
      · refine ih (List.rel_append hrun (.cons (stands.part text) .nil)) apart.2 (.inr ?_)
        simpa [stands.text, text] using apart.1
      · exact ((same_textRun hrun).append stands.slots).append (ih .nil apart.2 (.inl rfl))

/-- The slots of a list are read alike when its children have outcomes. -/
lemma same_elementSlots (holes : allowsHoles parent)
    (h : List.Forall₂ (Outcome c parent) children remains) :
    ∀ expecting, c.Same (elementSlots c.left parent expecting children)
      (elementSlots c.right parent expecting remains.reduceOption) := by
  have bracket : isWatched parent "[" := by simp [isWatched, watchedKinds, holes]
  have comma : isWatched parent "," := by simp [isWatched, watchedKinds, holes]
  induction h with
  | nil =>
    intro expecting
    rw [List.reduceOption_nil, elementSlots, elementSlots]
    exact .refl []
  | @cons child left children remains outcome _ ih =>
    intro expecting
    cases outcome with
    | gone kept _ watched =>
      rw [List.reduceOption_cons_of_none, elementSlots_cons, if_neg (ne_of_not_watched watched bracket),
        if_neg (ne_of_not_watched watched comma), if_neg (Bool.eq_false_iff.mp kept)]
      exact ih expecting
    | @replaced child' stands =>
      rw [List.reduceOption_cons_of_some, elementSlots_cons, elementSlots_cons]
      simp only [stands.kind_iff bracket, stands.kind_iff comma, stands.kept]
      -- a bracket, a comma where an element was due, any other comma, an element, anything else
      split_ifs
      · exact ih true
      · exact (Comparison.Same.refl [none]).append (ih true)
      · exact (Comparison.Same.refl []).append (ih true)
      · exact stands.slots.append (ih false)
      · exact ih expecting

/-- The slots of children are read alike after an exchange. -/
lemma same_childSlots (h : List.Forall₂ (Outcome c parent) children remains)
    (apart : textsApart remains) :
    c.Same (childSlots c.left parent children) (childSlots c.right parent remains.reduceOption) := by
  rw [childSlots, childSlots]
  split_ifs with holes
  · exact same_elementSlots holes h false
  · exact same_partSlots h .nil apart (.inl rfl)

/-- The tag that a child of an export tells, if any. -/
def exportTag? (kind : String) : Option String :=
  match kind with
  | "default" => some "ExportDefaultDeclaration"
  | "*" => some "ExportAllDeclaration"
  | "namespace_export" => some "ExportAllDeclaration"
  | _ => none

/-- The tag of an export is the first that a child tells, or else that of named exports. -/
lemma tagOfExport_eq (children : List Tree) :
    tagOfExport children =
      (children.findSome? fun child => exportTag? child.kind).getD "ExportNamedDeclaration" := rfl

/-- A child that an export does not look for tells no tag. -/
lemma exportTag?_of_not_watched {kind : String} (h : isWatched "export_statement" kind = false) :
    exportTag? kind = none := by
  unfold exportTag?
  split
  · exact absurd h (by decide)
  · exact absurd h (by decide)
  · exact absurd h (by decide)
  · rfl

/-- A tree and one that stands in for it tell the same tag to an export. -/
lemma StandsIn.exportTag? {t t' : Tree} (h : StandsIn c "export_statement" t t') :
    exportTag? t'.kind = exportTag? t.kind := by
  by_cases hw : isWatched "export_statement" t.kind ∨ isWatched "export_statement" t'.kind
  · rw [h.watched hw]
  · simp only [not_or, Bool.not_eq_true] at hw
    rw [exportTag?_of_not_watched hw.1, exportTag?_of_not_watched hw.2]

/-- The tag of a node is the same after an exchange of its children. -/
lemma nodeTag_outcomes (h : List.Forall₂ (Outcome c parent) children remains) :
    nodeTag parent remains.reduceOption = nodeTag parent children := by
  rw [nodeTag, nodeTag]
  split_ifs with export_
  · subst export_
    rw [tagOfExport_eq, tagOfExport_eq]
    congr 1
    induction h with
    | nil => rfl
    | @cons child left children remains outcome _ ih =>
      cases outcome with
      | gone _ _ watched =>
        rw [List.reduceOption_cons_of_none, ih, List.findSome?_cons,
          exportTag?_of_not_watched watched]
      | @replaced child' stands =>
        rw [List.reduceOption_cons_of_some, List.findSome?_cons, List.findSome?_cons, ih,
          stands.exportTag?]
  · rfl

end Siblings

section Nodes

variable {c : Comparison} {t t' : Tree}

/-- Nodes of trees that are read alike are read alike, given that what is below them is. -/
lemma relocate_treeNode (alike : c.Alike t t') (parent : String)
    (slots : c.Same (childSlots c.left t.kind t.children) (childSlots c.right t.kind t'.children))
    (tag : nodeTag t.kind t'.children = nodeTag t.kind t.children) :
    relocate c.read (treeNode c.right parent t') = relocate c.read (treeNode c.left parent t) := by
  have span := c.read_span alike.start alike.stop
  have value : literalOf? t.kind (parent == "jsx_attribute") (t'.text c.right.source) =
      literalOf? t.kind (parent == "jsx_attribute") (t.text c.left.source) := by
    cases literal : isLiteral t.kind with
    | true => rw [alike.text (.inr (.inl literal))]
    | false => rw [literalOf?_of_not_literal literal, literalOf?_of_not_literal literal]
  rw [treeNode, treeNode, alike.kind, value]
  cases name : isName t.kind with
  | true =>
    rw [alike.text (.inl name)]
    simp only [↓reduceIte, Node.relocate_eq, span]
  | false =>
    cases literalOf? t.kind (parent == "jsx_attribute") (t.text c.left.source) with
    | some value => simp only [Bool.false_eq_true, ↓reduceIte, Node.relocate_eq, span]
    | none =>
      simp only [Bool.false_eq_true, ↓reduceIte, Node.relocate_eq, span, tag]
      rw [slots]

/-- A tree that is read alike stands in for another when it contributes the same. -/
lemma StandsIn.of_alike (alike : c.Alike t t') {parent : String}
    (slots : c.Same (treeSlots c.left parent t) (treeSlots c.right parent t')) :
    StandsIn c parent t t' where
  slots := slots
  kept := by rw [Tree.isKept, Tree.isKept, alike.kind, alike.named]
  watched := fun _ => alike.kind
  text := by rw [alike.kind]
  part := by
    intro text
    refine ⟨?_, alike.start, alike.stop⟩
    rw [Origin.partText, Origin.partText, alike.kind, alike.text (.inr (.inr text))]

/-- A tree that is read alike stands in for another whose children it has after an exchange. -/
lemma StandsIn.of_outcomes (alike : c.Alike t t') {remains : List (Option Tree)}
    (h : List.Forall₂ (Outcome c t.kind) t.children remains) (apart : textsApart remains)
    (below : t'.children = remains.reduceOption) (parent : String) : StandsIn c parent t t' := by
  have slots := same_childSlots h apart
  have tag := nodeTag_outcomes h
  rw [← below] at slots tag
  have kept : t'.isKept = t.isKept := by rw [Tree.isKept, Tree.isKept, alike.kind, alike.named]
  apply StandsIn.of_alike alike
  rw [treeSlots_eq, treeSlots_eq, kept, alike.kind]
  split_ifs
  · exact slots
  · rw [Comparison.Same, relocateSlots, relocateSlots, relocate_treeNode alike parent slots tag]
    rfl
  · exact .refl []

/-- Nodes of programs are read alike after an exchange of the children of the root. -/
lemma same_programNodes {remains : List (Option Tree)} (kind : t'.kind = t.kind)
    (h : List.Forall₂ (Outcome c t.kind) t.children remains) (apart : textsApart remains)
    (below : t'.children = remains.reduceOption) :
    (programNodes c.right t').map (relocate c.read) =
      (programNodes c.left t).map (relocate c.read) := by
  rw [programNodes, programNodes, ← Node.filterMap_relocateSlots, ← Node.filterMap_relocateSlots,
    kind, below, same_childSlots h apart]

end Nodes

section Replacement

variable {c : Comparison} {parent : String} {children children' : List Tree}

/-- Where no child goes, no text parts become neighbours. -/
lemma textsApart_map_some (children : List Tree) : textsApart (children.map some) := by
  induction children with
  | nil => rfl
  | cons child children ih =>
    have gap : textBehindGap (children.map some) = false := by
      cases children <;> rfl
    rw [List.map_cons, textsApart, gap, Bool.and_false, ih]
    rfl

/-- Children for which others stand in have outcomes, all of them. -/
lemma outcomes_of_standsIn (h : List.Forall₂ (StandsIn c parent) children children') :
    List.Forall₂ (Outcome c parent) children (children'.map some) := by
  induction h with
  | nil => exact .nil
  | cons stands _ ih => exact .cons (.replaced stands) ih

/-- Where nothing is gone, everything is left. -/
lemma reduceOption_map_some (children : List Tree) : (children.map some).reduceOption = children := by
  rw [List.reduceOption, List.filterMap_map]
  exact List.filterMap_some

/-- A tree that is read alike stands in for another when its children stand in for the children. -/
lemma StandsIn.of_children {t t' : Tree} (alike : c.Alike t t')
    (h : List.Forall₂ (StandsIn c t.kind) t.children t'.children) (parent : String) :
    StandsIn c parent t t' :=
  .of_outcomes alike (outcomes_of_standsIn h) (textsApart_map_some _) (reduceOption_map_some _).symm
    parent

end Replacement

section Exact

variable {o : Origin} {t t' : Tree}

/-- A tree stands in for itself. -/
lemma StandsIn.refl (o : Origin) (parent : String) (t : Tree) :
    StandsIn (.exact o) parent t t where
  slots := .refl _
  kept := rfl
  watched := fun _ => rfl
  text := rfl
  part := fun _ => ⟨rfl, rfl, rfl⟩

/-- Trees that differ in nothing but their children are read alike apart from these. -/
lemma Comparison.Alike.with_children (o : Origin) (t : Tree) (children : List Tree) :
    (Comparison.exact o).Alike t { t with children := children } where
  kind := rfl
  named := rfl
  start := rfl
  stop := rfl
  text := fun _ => rfl

/-- An exchange of the children of the root leaves the program as it is when all of a span counts. -/
lemma programNodes_of_outcomes {remains : List (Option Tree)} (kind : t'.kind = t.kind)
    (h : List.Forall₂ (Outcome (.exact o) t.kind) t.children remains) (apart : textsApart remains)
    (below : t'.children = remains.reduceOption) : programNodes o t' = programNodes o t := by
  have same := same_programNodes kind h apart below
  have whole : ∀ nodes : List Node, nodes.map (relocate (Comparison.exact o).read) = nodes := by
    intro nodes
    exact (List.map_congr_left fun n _ => Node.relocate_id n).trans (List.map_id' nodes)
  rwa [whole, whole] at same

end Exact

end CodeClones.Cst
