import CodeClones.Proofs.Cst.Exchange

/-!
# Trivia

Comments and punctuation leave no trace in a normalised program. Trivia are the nodes of the kinds that
are dropped, and the tokens that no parent looks for (`Tree.isTrivia`). `Tree.Stripped` relates a tree
to what is left of it when any of the trivia below its root are deleted, at any depth; the one
condition is that text parts do not become neighbours, since then they would join. The main statement,
`programNodes_stripped`, says that the program stays the same, spans included.
-/

namespace CodeClones.Cst

/-- Whether a node below a parent of the given kind is trivia. Brackets and commas of lists that allow
holes are not, and neither are the words that tell exports apart. -/
def Tree.isTrivia (parent : String) (t : Tree) : Bool :=
  isDropped t.kind || (!t.named && !isTextPart t.kind && !isWatched parent t.kind)

/-- What is left of the children of a node of the given kind when some trivia among them and below them
are deleted; a deleted child leaves a gap. -/
inductive StrippedBelow : String → List Tree → List (Option Tree) → Prop where
  | nil {parent} :
    StrippedBelow parent [] []
  | deleted {parent child children remains} :
    child.isTrivia parent →
    StrippedBelow parent children remains →
    StrippedBelow parent (child :: children) (none :: remains)
  | kept {parent child children remains below} :
    StrippedBelow child.kind child.children below →
    textsApart below →
    StrippedBelow parent children remains →
    StrippedBelow parent (child :: children)
      (some { child with children := below.reduceOption } :: remains)

/-- What is left of a tree when some trivia below its root are deleted. -/
def Tree.Stripped (t t' : Tree) : Prop :=
  ∃ remains, StrippedBelow t.kind t.children remains ∧ textsApart remains ∧
    t' = { t with children := remains.reduceOption }

/-- A kind that is dropped is no text part. -/
lemma isTextPart_of_isDropped {kind : String} (h : isDropped kind) : isTextPart kind = false := by
  have all : ∀ k ∈ droppedKinds, isTextPart k = false := by decide
  exact all kind (List.contains_iff_mem.mp h)

/-- No parent looks for a kind that is dropped. -/
lemma isWatched_of_isDropped {kind : String} (h : isDropped kind) (parent : String) :
    isWatched parent kind = false := by
  refine Bool.eq_false_iff.mpr ?_
  intro watched
  rcases isWatched_cases watched with ⟨-, rfl | rfl⟩ | ⟨-, rfl | rfl | rfl⟩ <;>
    exact absurd h (by decide)

/-- Trivia may go. -/
lemma outcome_of_isTrivia {c : Comparison} {parent : String} {t : Tree} (h : t.isTrivia parent) :
    Outcome c parent t none := by
  rw [Tree.isTrivia, Bool.or_eq_true] at h
  rcases h with dropped | token
  · refine .gone ?_ (isTextPart_of_isDropped dropped) (isWatched_of_isDropped dropped parent)
    rw [Tree.isKept, dropped, Bool.not_true, Bool.and_false]
  · simp only [Bool.and_eq_true, Bool.not_eq_true'] at token
    obtain ⟨⟨unnamed, text⟩, watched⟩ := token
    refine .gone ?_ text watched
    rw [Tree.isKept, unnamed, Bool.false_and]

/-- What is left of children is the outcome of an exchange. -/
lemma StrippedBelow.outcomes {parent : String} {children : List Tree} {remains : List (Option Tree)}
    (o : Origin) (h : StrippedBelow parent children remains) :
    List.Forall₂ (Outcome (.exact o) parent) children remains := by
  induction h with
  | nil => exact .nil
  | deleted trivia _ ih => exact .cons (outcome_of_isTrivia trivia) ih
  | @kept parent child children remains below _ apart _ ihBelow ih =>
    refine .cons (.replaced ?_) ih
    exact .of_outcomes (.with_children o child _) ihBelow apart rfl parent

/-- Deleting trivia leaves a program as it is, spans included. -/
theorem programNodes_stripped (o : Origin) {t t' : Tree} (h : t.Stripped t') :
    programNodes o t' = programNodes o t := by
  obtain ⟨remains, below, apart, rfl⟩ := h
  exact programNodes_of_outcomes rfl (below.outcomes o) apart rfl

/-- The tree of `export /*a*/ default [/*b*/,x];`. -/
def Tree.commented : Tree :=
  .onFirstRow "program" true 0 31 [
    .onFirstRow "export_statement" true 0 31 [
      .onFirstRow "export" false 0 6 [],
      .onFirstRow "comment" true 7 12 [],
      .onFirstRow "default" false 13 20 [],
      .onFirstRow "array" true 21 30 [
        .onFirstRow "[" false 21 22 [],
        .onFirstRow "comment" true 22 27 [],
        .onFirstRow "," false 27 28 [],
        .onFirstRow "identifier" true 28 29 [],
        .onFirstRow "]" false 29 30 []],
      .onFirstRow ";" false 30 31 []]]

/-- The same without its comments and some of its tokens. -/
def Tree.uncommented : Tree :=
  .onFirstRow "program" true 0 31 [
    .onFirstRow "export_statement" true 0 31 [
      .onFirstRow "default" false 13 20 [],
      .onFirstRow "array" true 21 30 [
        .onFirstRow "[" false 21 22 [],
        .onFirstRow "," false 27 28 [],
        .onFirstRow "identifier" true 28 29 []],
      .onFirstRow ";" false 30 31 []]]

/-- Comments before the word that makes an export a default one, and before a hole. -/
theorem programNodes_stripped_sample :
    Tree.commented.Stripped Tree.uncommented ∧
      programNodes ⟨"a.js", "export /*a*/ default [/*b*/,x];"⟩ Tree.uncommented =
        programNodes ⟨"a.js", "export /*a*/ default [/*b*/,x];"⟩ Tree.commented := by
  have stripped : Tree.commented.Stripped Tree.uncommented :=
    ⟨_, .kept (.deleted rfl (.deleted rfl (.kept .nil rfl (.kept
      (.kept .nil rfl (.deleted rfl (.kept .nil rfl (.kept .nil rfl (.deleted rfl .nil)))))
      rfl (.kept .nil rfl .nil))))) rfl .nil, rfl, rfl⟩
  exact ⟨stripped, programNodes_stripped _ stripped⟩

end CodeClones.Cst
