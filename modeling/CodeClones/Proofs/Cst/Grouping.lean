import CodeClones.Proofs.Cst.Exchange
import Mathlib.Logic.Relation

/-!
# Grouping

Wrappers that give way to their children can be put around a node without a trace, as often as one
likes and at any depth. `Wraps` says what a wrapper around a node is, and `Tree.Regrouped` relates a
tree to the same tree with one more wrapper somewhere below its root. The parent of the node is another
one then, so two nodes are left out whose parents look at them: a string that is the value of a markup
attribute, and the namespace of an export. The main statement is `programNodes_regrouped`.
-/

namespace CodeClones.Cst

/-- The kinds that only tokens have. -/
def tokenKinds : List String :=
  ["[", ",", "default", "*"]

/-- Whether in a tree the kinds of tokens are left to tokens. -/
def Tree.ReservesTokens (root : Tree) : Prop :=
  ∀ t ∈ root.subtrees, t.kind ∈ tokenKinds → t.named = false

instance (root : Tree) : Decidable root.ReservesTokens :=
  inferInstanceAs (Decidable (∀ t ∈ root.subtrees, t.kind ∈ tokenKinds → t.named = false))

/-- A wrapper around a node that stood below a parent of the given kind. -/
structure Wraps (parent : String) (e w : Tree) : Prop where
  kept : e.isKept
  noText : isTextPart e.kind = false
  noAttribute : ¬ (parent = "jsx_attribute" ∧ e.kind = "string")
  noNamespace : ¬ (parent = "export_statement" ∧ e.kind = "namespace_export")
  named : w.named
  thin : isTransparent w.kind
  /-- Beside the node there are tokens only. -/
  around : ∃ before after, w.children = before ++ e :: after ∧
    ∀ token ∈ before ++ after, token.named = false ∧ isTextPart token.kind = false

/-- One more wrapper around a node somewhere below the root. -/
inductive Tree.Regrouped : Tree → Tree → Prop where
  | here {t before e after w} :
    t.children = before ++ e :: after →
    Wraps t.kind e w →
    Regrouped t { t with children := before ++ w :: after }
  | deeper {t before child after child'} :
    t.children = before ++ child :: after →
    Regrouped child child' →
    Regrouped t { t with children := before ++ child' :: after }

section Wrapper

variable {o : Origin} {parent : String} {e w : Tree}

/-- A wrapper is neither dropped nor a text, and no parent looks for it. -/
lemma roles_of_isTransparent {kind : String} (h : isTransparent kind) :
    isDropped kind = false ∧ isTextPart kind = false ∧ kind ∉ tokenKinds ∧
      kind ≠ "namespace_export" ∧ kind ≠ "jsx_attribute" := by
  have all : ∀ k ∈ transparentKinds, isDropped k = false ∧ isTextPart k = false ∧ k ∉ tokenKinds ∧
      k ≠ "namespace_export" ∧ k ≠ "jsx_attribute" := by decide
  exact all kind (List.contains_iff_mem.mp h)

/-- No parent looks for a node that is neither a token nor the namespace of an export. -/
lemma isWatched_eq_false {kind : String} (token : kind ∉ tokenKinds)
    (noNamespace : ¬ (parent = "export_statement" ∧ kind = "namespace_export")) :
    isWatched parent kind = false := by
  refine Bool.eq_false_iff.mpr ?_
  intro watched
  rcases isWatched_cases watched with ⟨-, rfl | rfl⟩ | ⟨rfl, rfl | rfl | rfl⟩
  · exact token (by decide)
  · exact token (by decide)
  · exact token (by decide)
  · exact token (by decide)
  · exact noNamespace ⟨rfl, rfl⟩

/-- Only for strings does it matter whether escapes are resolved. -/
lemma literalOf?_verbatim {kind : String} (h : kind ≠ "string") (verbatim verbatim' : Bool)
    (text : String) : literalOf? kind verbatim text = literalOf? kind verbatim' text := by
  unfold literalOf?
  split
  · exact absurd rfl h
  all_goals rfl

/-- Only a string cares about the kind of its parent. -/
lemma treeSlots_parent {parent' : String}
    (h : e.kind = "string" → (parent == "jsx_attribute") = (parent' == "jsx_attribute")) :
    treeSlots o parent e = treeSlots o parent' e := by
  have node : treeNode o parent e = treeNode o parent' e := by
    rw [treeNode, treeNode]
    by_cases string : e.kind = "string"
    · rw [h string]
    · rw [literalOf?_verbatim string]
  rw [treeSlots_eq, treeSlots_eq, node]

/-- Tokens have no slots. -/
lemma flatMap_tokens (o : Origin) (parent : String) {tokens : List Tree}
    (h : ∀ token ∈ tokens, token.named = false) : tokens.flatMap (treeSlots o parent) = [] := by
  rw [List.flatMap_eq_nil_iff]
  intro token ht
  exact treeSlots_of_not_kept o parent (by rw [Tree.isKept, h token ht, Bool.false_and])

/-- A wrapper contributes what the node in it contributes below the wrapper. -/
lemma Wraps.slots_eq (h : Wraps parent e w) : treeSlots o parent w = treeSlots o w.kind e := by
  obtain ⟨dropped, -⟩ := roles_of_isTransparent h.thin
  obtain ⟨before, after, inside, tokens⟩ := h.around
  have kept : w.isKept := by
    rw [Tree.isKept, h.named, dropped]
    rfl
  have noText : ∀ child ∈ before ++ e :: after, isTextPart child.kind = false := by
    intro child hc
    rcases List.mem_append.mp hc with hc | hc
    · exact (tokens child (List.mem_append_left _ hc)).2
    · rcases List.mem_cons.mp hc with rfl | hc
      · exact h.noText
      · exact (tokens child (List.mem_append_right _ hc)).2
  have front := flatMap_tokens o w.kind fun token ht =>
    (tokens token (List.mem_append_left after ht)).1
  have back := flatMap_tokens o w.kind fun token ht =>
    (tokens token (List.mem_append_right before ht)).1
  rw [treeSlots_eq, if_pos kept, if_pos h.thin, childSlots, allowsHoles_of_isTransparent h.thin,
    inside, if_neg Bool.false_ne_true, partSlots_eq_flatMap o w.kind noText, List.flatMap_append,
    List.flatMap_cons, front, back, List.nil_append, List.append_nil]

/-- A wrapper stands in for the node in it. -/
lemma Wraps.standsIn (h : Wraps parent e w) (token : e.kind ∉ tokenKinds) :
    StandsIn (.exact o) parent e w := by
  obtain ⟨dropped, noText, noToken, noNamespace, noAttribute⟩ := roles_of_isTransparent h.thin
  refine ⟨?_, ?_, ?_, ?_, ?_⟩
  · have parents : treeSlots o w.kind e = treeSlots o parent e := by
      apply treeSlots_parent
      intro string
      have other : parent ≠ "jsx_attribute" := fun e => h.noAttribute ⟨e, string⟩
      rw [beq_false_of_ne noAttribute, beq_false_of_ne other]
    have slots : treeSlots o parent w = treeSlots o parent e := h.slots_eq.trans parents
    exact congrArg _ slots
  · rw [h.kept, Tree.isKept, h.named, dropped]
    rfl
  · rintro (watched | watched)
    · rw [isWatched_eq_false token h.noNamespace] at watched
      cases watched
    · rw [isWatched_eq_false noToken fun both => noNamespace both.2] at watched
      cases watched
  · rw [noText, h.noText]
  · intro text
    rw [h.noText] at text
    cases text

end Wrapper

/-- Lists that differ in one entry only are related when those two entries are. -/
lemma forall₂_exchange {α : Type} {R : α → α → Prop} (refl : ∀ x, R x x) {before after : List α}
    {x y : α} (h : R x y) : List.Forall₂ R (before ++ x :: after) (before ++ y :: after) :=
  List.rel_append (List.forall₂_same.mpr fun z _ => refl z)
    (.cons h (List.forall₂_same.mpr fun z _ => refl z))

/-- Whether in a tree the kinds of tokens are left to tokens, as far as named nodes reach. -/
inductive Tree.Proper : Tree → Prop where
  | token {t} :
    t.named = false →
    Proper t
  | node {t} :
    t.kind ∉ tokenKinds →
    (∀ child ∈ t.children, child.Proper) →
    Proper t

/-- A tree that leaves the kinds of tokens to tokens does so as far as named nodes reach. -/
lemma Tree.ReservesTokens.proper {t : Tree} (h : t.ReservesTokens) : t.Proper := by
  induction t using Tree.induct with
  | step t ih =>
    by_cases token : t.kind ∈ tokenKinds
    · exact .token (h t t.mem_subtrees_self token)
    · refine .node token ?_
      intro child hc
      exact ih child hc fun s hs => h s (mem_subtrees_of_child hc hs)

/-- A node in a proper tree that is kept does not have the kind of a token. -/
lemma Tree.Proper.noToken {t : Tree} (h : t.Proper) (kept : t.isKept) : t.kind ∉ tokenKinds := by
  cases h with
  | token unnamed =>
    rw [isKept, unnamed, Bool.false_and] at kept
    cases kept
  | node noToken _ => exact noToken

/-- A wrapper around a proper node is proper. -/
lemma Wraps.proper {parent : String} {e w : Tree} (h : Wraps parent e w) (he : e.Proper) :
    w.Proper := by
  obtain ⟨-, -, noToken, -⟩ := roles_of_isTransparent h.thin
  obtain ⟨before, after, inside, tokens⟩ := h.around
  refine .node noToken ?_
  intro child hc
  rw [inside] at hc
  rcases List.mem_append.mp hc with hc | hc
  · exact .token (tokens child (List.mem_append_left _ hc)).1
  · rcases List.mem_cons.mp hc with rfl | hc
    · exact he
    · exact .token (tokens child (List.mem_append_right _ hc)).1

namespace Tree.Regrouped

variable {o : Origin} {t t' : Tree}

/-- A tree and the same tree regrouped below its root are read alike apart from their children. -/
lemma alike (o : Origin) (h : t.Regrouped t') : (Comparison.exact o).Alike t t' := by
  cases h with
  | here _ _ => exact .with_children o t _
  | deeper _ _ => exact .with_children o t _

/-- Below a tree that is proper below its root, one more wrapper leaves it so. -/
lemma proper_children (h : t.Regrouped t') (proper : ∀ child ∈ t.children, child.Proper) :
    ∀ child ∈ t'.children, child.Proper := by
  induction h with
  | @here t before e after w inside wraps =>
    rw [inside, List.forall_mem_append, List.forall_mem_cons] at proper
    rw [List.forall_mem_append, List.forall_mem_cons]
    exact ⟨proper.1, wraps.proper proper.2.1, proper.2.2⟩
  | @deeper t before child after child' inside step ih =>
    rw [inside, List.forall_mem_append, List.forall_mem_cons] at proper
    rw [List.forall_mem_append, List.forall_mem_cons]
    have same := step.alike ⟨"", ""⟩
    have changed : child'.Proper := by
      cases proper.2.1 with
      | token unnamed => exact .token (same.named.trans unnamed)
      | node noToken below => exact .node (same.kind ▸ noToken) (ih below)
    exact ⟨proper.1, changed, proper.2.2⟩

/-- Children stand in for children after one more wrapper below. -/
lemma standsIn_children (o : Origin) (h : t.Regrouped t')
    (proper : ∀ child ∈ t.children, child.Proper) :
    List.Forall₂ (StandsIn (.exact o) t.kind) t.children t'.children := by
  induction h with
  | @here t before e after w inside wraps =>
    rw [inside, List.forall_mem_append, List.forall_mem_cons] at proper
    rw [inside]
    exact forall₂_exchange (StandsIn.refl o t.kind) (wraps.standsIn (proper.2.1.noToken wraps.kept))
  | @deeper t before child after child' inside step ih =>
    rw [inside, List.forall_mem_append, List.forall_mem_cons] at proper
    rw [inside]
    refine forall₂_exchange (StandsIn.refl o t.kind) ?_
    cases proper.2.1 with
    | token unnamed =>
      -- nobody sees what is below a token
      have dropped : child.isKept = false := by rw [isKept, unnamed, Bool.false_and]
      have dropped' : child'.isKept = false := by
        rw [isKept, (step.alike o).named, unnamed, Bool.false_and]
      apply StandsIn.of_alike (step.alike o)
      rw [treeSlots_of_not_kept _ _ dropped, treeSlots_of_not_kept _ _ dropped']
      exact .refl []
    | node noToken below => exact .of_children (step.alike o) (ih below) t.kind

end Tree.Regrouped

/-- One more wrapper below the root leaves the program as it is. -/
lemma programNodes_of_regrouped (o : Origin) {root root' : Tree}
    (proper : ∀ child ∈ root.children, child.Proper) (h : root.Regrouped root') :
    programNodes o root' = programNodes o root :=
  programNodes_of_outcomes (h.alike o).kind (outcomes_of_standsIn (h.standsIn_children o proper))
    (textsApart_map_some _) (reduceOption_map_some _).symm

/-- In a tree that leaves the kinds of tokens to tokens, any number of wrappers can be put around nodes
below the root, one inside the other and at any depth: the program stays the same, spans included. -/
theorem programNodes_regrouped (o : Origin) {root root' : Tree} (h : root.ReservesTokens)
    (wrapped : Relation.ReflTransGen Tree.Regrouped root root') :
    programNodes o root' = programNodes o root := by
  have proper : ∀ child ∈ root.children, child.Proper := by
    intro child hc
    exact Tree.ReservesTokens.proper fun s hs => h s (Tree.mem_subtrees_of_child hc hs)
  clear h
  induction wrapped using Relation.ReflTransGen.head_induction_on with
  | refl => rfl
  | head step _ ih =>
    rw [ih (step.proper_children proper)]
    exact programNodes_of_regrouped o proper step

/-- A node in parentheses. -/
def Tree.parenthesised (e : Tree) : Tree :=
  .onFirstRow "parenthesized_expression" true 0 0
    [.onFirstRow "(" false 0 0 [], e, .onFirstRow ")" false 0 0 []]

/-- A program that is an array with a hole and an element behind it. -/
def Tree.elided (e : Tree) : Tree :=
  .onFirstRow "program" true 0 5 [
    .onFirstRow "array" true 0 5 [
      .onFirstRow "[" false 0 1 [],
      .onFirstRow "," false 1 2 [],
      e,
      .onFirstRow "]" false 4 5 []]]

/-- Parentheses around the element of such a program are one regrouping. -/
lemma Tree.regrouped_elided {e : Tree} (kept : e.isKept) (noText : isTextPart e.kind = false) :
    e.elided.Regrouped e.parenthesised.elided := by
  have wraps : Wraps "array" e e.parenthesised :=
    ⟨kept, noText, by simp, by simp, rfl, rfl, [_], [_], rfl, by decide⟩
  exact @Regrouped.deeper _ [] _ [] _ rfl (@Regrouped.here _ [_, _] e [_] _ rfl wraps)

/-- Two pairs of parentheses around the element of an array with a hole. -/
theorem programNodes_regrouped_sample :
    let x := Tree.onFirstRow "identifier" true 3 4 []
    let root' := x.parenthesised.parenthesised.elided
    x.elided.ReservesTokens ∧ Relation.ReflTransGen Tree.Regrouped x.elided root' ∧
      programNodes ⟨"a.js", "[, x]"⟩ root' = programNodes ⟨"a.js", "[, x]"⟩ x.elided := by
  intro x root'
  have reserves : x.elided.ReservesTokens := by decide
  have once : x.elided.Regrouped x.parenthesised.elided := Tree.regrouped_elided rfl rfl
  have twice : x.parenthesised.elided.Regrouped root' := Tree.regrouped_elided rfl rfl
  have wrapped : Relation.ReflTransGen Tree.Regrouped x.elided root' := .head once (.single twice)
  exact ⟨reserves, wrapped, programNodes_regrouped _ reserves wrapped⟩

end CodeClones.Cst
