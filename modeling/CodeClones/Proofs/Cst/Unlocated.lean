import CodeClones.Proofs.Cst.Exchange

/-!
# Programs in other places

What a program is does not depend on where it stands. `Tree.Corresponds` relates trees of the same
shape, kinds and flags whose names, literals and texts read the same in their sources. Normalising
gives them nodes that differ in their spans only, so that walks over nodes at the same place meet the
same tokens and groups of such nodes have one fingerprint: `programNodes_unlocated`.
-/

namespace CodeClones.Cst

open Node (unlocated)

/-- Trees of the same shape whose names, literals and texts read the same. -/
inductive Tree.Corresponds (o o' : Origin) : Tree → Tree → Prop where
  | node {t t'} :
    t'.kind = t.kind →
    t'.named = t.named →
    (isName t.kind ∨ isLiteral t.kind ∨ isTextPart t.kind → t'.text o'.source = t.text o.source) →
    List.Forall₂ (Corresponds o o') t.children t'.children →
    Corresponds o o' t t'

section Correspondence

variable {o o' : Origin} {t t' : Tree}

/-- Trees that correspond are read alike where no location counts, their children apart. -/
lemma Tree.Corresponds.alike (h : t.Corresponds o o' t') :
    (Comparison.unlocated o o').Alike t t' := by
  cases h with
  | node kind named text _ => exact ⟨kind, named, trivial, trivial, text⟩

/-- Trees that correspond stand in for each other where spans do not count. -/
lemma standsIn_of_corresponds (t : Tree) :
    ∀ {t'}, t.Corresponds o o' t' → ∀ parent, StandsIn (.unlocated o o') parent t t' := by
  induction t using Tree.induct with
  | step t ih =>
    intro t' h parent
    have alike := h.alike
    cases h with
    | node _ _ _ below =>
      refine .of_children alike ?_ parent
      have both := (List.forall₂_and_left t.children t'.children).mpr ⟨fun c hc => @ih c hc, below⟩
      exact both.imp fun c c' h => h.1 h.2 t.kind

/-- Programs of trees that correspond are equal without their places. -/
lemma map_unlocated_programNodes (h : t.Corresponds o o' t') :
    (programNodes o t).map unlocated = (programNodes o' t').map unlocated := by
  cases h with
  | node kind _ _ below =>
    have children := below.imp fun c c' h => standsIn_of_corresponds c h t.kind
    exact (same_programNodes kind (outcomes_of_standsIn children) (textsApart_map_some _)
      (reduceOption_map_some _).symm).symm

/-- Nodes at the same place of lists that agree without locations agree without them. -/
lemma unlocated_of_mem_zip {nodes nodes' : List Node}
    (h : nodes.map unlocated = nodes'.map unlocated) {pair : Node × Node}
    (hp : pair ∈ nodes.zip nodes') : pair.1.unlocated = pair.2.unlocated := by
  have each : List.Forall₂ (fun n n' => n.unlocated = n'.unlocated) nodes nodes' := by
    rwa [← List.forall₂_eq_eq_eq, List.forall₂_map_left_iff, List.forall₂_map_right_iff] at h
  exact (List.forall₂_iff_zip.mp each).2 hp

end Correspondence

/-- Programs of trees that correspond are equal once their places are left out: the same kinds, names,
values, slots and holes. So walks over two nodes at the same place, depth first or level by level, meet
the same tokens, and groups of nodes at the same places have the same fingerprint. -/
theorem programNodes_unlocated {o o' : Origin} {root root' : Tree}
    (h : root.Corresponds o o' root') :
    let nodes := (programNodes o root).flatMap Node.subtrees
    let nodes' := (programNodes o' root').flatMap Node.subtrees
    (programNodes o root).map unlocated = (programNodes o' root').map unlocated ∧
    nodes.length = nodes'.length ∧
    (∀ pair ∈ nodes.zip nodes',
      pair.1.depthFirst.map Node.token = pair.2.depthFirst.map Node.token ∧
      pair.1.breadthFirst.map Node.token = pair.2.breadthFirst.map Node.token) ∧
    ∀ groups : List (List (Node × Node)),
      (∀ group ∈ groups, ∀ pair ∈ group, pair ∈ nodes.zip nodes') →
      fingerprint (groups.map (List.map Prod.fst)) =
        fingerprint (groups.map (List.map Prod.snd)) := by
  intro nodes nodes'
  have top := map_unlocated_programNodes h
  have all : nodes.map unlocated = nodes'.map unlocated := by
    calc nodes.map unlocated
        = ((programNodes o root).map unlocated).flatMap Node.subtrees :=
          (Node.flatMap_subtrees_relocate _).symm
      _ = ((programNodes o' root').map unlocated).flatMap Node.subtrees := by rw [top]
      _ = nodes'.map unlocated := Node.flatMap_subtrees_relocate _
  refine ⟨top, by simpa using congrArg List.length all, ?_, ?_⟩
  · intro pair hp
    have same := unlocated_of_mem_zip all hp
    exact ⟨Node.depthFirst_tokens same, Node.breadthFirst_tokens same⟩
  · intro groups hg
    apply Node.fingerprint_unlocated
    intro group hgroup pair hp
    exact unlocated_of_mem_zip all (hg group hgroup pair hp)

/-- The tree of `[,x]` at an offset. -/
def Tree.arrayAt (n : Nat) : Tree :=
  .onFirstRow "program" true n (n + 4) [
    .onFirstRow "array" true n (n + 4) [
      .onFirstRow "[" false n (n + 1) [],
      .onFirstRow "," false (n + 1) (n + 2) [],
      .onFirstRow "identifier" true (n + 2) (n + 3) [],
      .onFirstRow "]" false (n + 3) (n + 4) []]]

/-- One array at two places of two files. -/
theorem programNodes_unlocated_sample :
    let o : Origin := ⟨"a.js", "[,x]"⟩
    let o' : Origin := ⟨"b.js", "/**/[,x]"⟩
    let nodes := (programNodes o (.arrayAt 0)).flatMap Node.subtrees
    let nodes' := (programNodes o' (.arrayAt 4)).flatMap Node.subtrees
    (Tree.arrayAt 0).Corresponds o o' (.arrayAt 4) ∧ nodes.length = 2 ∧
      (programNodes o (.arrayAt 0)).map unlocated = (programNodes o' (.arrayAt 4)).map unlocated ∧
      fingerprint [(nodes.zip nodes').map Prod.fst] = fingerprint [(nodes.zip nodes').map Prod.snd] := by
  intro o o' nodes nodes'
  have name : Text.slice o'.source 6 7 = Text.slice o.source 2 3 := by decide +kernel
  have corresponds : (Tree.arrayAt 0).Corresponds o o' (.arrayAt 4) := by
    refine .node rfl rfl nofun (.cons (.node rfl rfl nofun ?_) .nil)
    exact .cons (.node rfl rfl nofun .nil) (.cons (.node rfl rfl nofun .nil)
      (.cons (.node rfl rfl (fun _ => name) .nil) (.cons (.node rfl rfl nofun .nil) .nil)))
  obtain ⟨top, -, -, groups⟩ := programNodes_unlocated corresponds
  refine ⟨corresponds, rfl, top, groups [nodes.zip nodes'] ?_⟩
  intro group hg pair hp
  rwa [List.mem_singleton.mp hg] at hp

end CodeClones.Cst
