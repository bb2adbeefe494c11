import CodeClones.Proofs.Cst.Inversion
import CodeClones.Proofs.Node.Shape
import Mathlib.Tactic.ByContra

/-!
# The shape of normalised nodes

Every node of a normalised program is well shaped. Since each is made in one of the two ways that
`Made` lists, the main statement, `programNodes_wellShaped`, comes down to these two and to holes: no
tree hands a hole on to its parent (`no_hole_treeSlots`), however deep the wrappers go.
-/

namespace CodeClones.Cst

section Holes

variable {o : Origin} {parent : String}

/-- A run of text parts leaves no hole. -/
lemma no_hole_textRun (run : List Tree) : none ∉ o.textRun run := by
  cases run with
  | nil => simp
  | cons first rest => simp

/-- Siblings that leave no holes one by one leave none together. -/
lemma no_hole_partSlots {children : List Tree}
    (each : ∀ child ∈ children, none ∉ treeSlots o parent child) (run : List Tree) :
    none ∉ partSlots o parent run children := by
  induction children generalizing run with
  | nil =>
    rw [partSlots]
    exact no_hole_textRun run
  | cons child children ih =>
    have ih := ih fun c hc => each c (List.mem_cons_of_mem _ hc)
    rw [partSlots]
    split_ifs
    · exact ih (run ++ [child])
    · rw [List.mem_append, List.mem_append, not_or, not_or]
      exact ⟨⟨no_hole_textRun run, each child List.mem_cons_self⟩, ih []⟩

/-- A tree hands no hole on to its parent. -/
lemma no_hole_treeSlots (t : Tree) : ∀ parent, none ∉ treeSlots o parent t := by
  induction t using Tree.induct with
  | step t ih =>
    intro parent
    rcases treeSlots_cases o parent t with ⟨-, e⟩ | ⟨-, thin, e⟩ | ⟨-, -, e⟩
    · rw [e]
      exact List.not_mem_nil
    · rw [e, childSlots, allowsHoles_of_isTransparent thin]
      exact no_hole_partSlots (fun c hc => ih c hc t.kind) []
    · rw [e]
      simp

/-- Holes are left below lists that allow them only. -/
lemma allowsHoles_of_hole {kind : String} {children : List Tree}
    (h : none ∈ childSlots o kind children) : allowsHoles kind := by
  by_contra list
  rw [childSlots, if_neg list] at h
  exact no_hole_partSlots (fun c _ => no_hole_treeSlots c kind) [] h

end Holes

/-- Lists that allow holes become arrays and array patterns. -/
lemma kind_of_allowsHoles {kind : String} (h : allowsHoles kind) (children : List Tree) :
    Kind.ofTag (nodeTag kind children) = .arrayExpression ∨
      Kind.ofTag (nodeTag kind children) = .arrayPattern := by
  have listed : kind = "array" ∨ kind = "array_pattern" := by
    simpa [allowsHoles, holeKinds] using h
  rcases listed with rfl | rfl
  · exact .inl rfl
  · exact .inr rfl

/-- A node that is made in one of the two ways has a name, a value or slots, and nothing beside. -/
lemma Made.wellShaped {o : Origin} {n : Node} (made : Made o n) : n.WellShaped o.filename := by
  have located := made.filename
  cases made with
  | text first rest =>
    exact ⟨located, nofun, nofun, fun _ => ⟨.inr rfl, rfl, rfl⟩, nofun⟩
  | tree parent t kept solid =>
    rcases treeNode_cases o parent t with ⟨-, e⟩ | ⟨-, -, value, e⟩ | ⟨-, -, e⟩
    · rw [e] at located ⊢
      exact ⟨located, nofun, fun _ => ⟨rfl, rfl, rfl⟩, nofun, nofun⟩
    · rw [e] at located ⊢
      exact ⟨located, nofun, nofun, fun _ => ⟨.inl rfl, rfl, rfl⟩, nofun⟩
    · rw [e] at located ⊢
      refine ⟨located, Kind.canonical_ofTag _, nofun, nofun, ?_⟩
      intro hole
      exact kind_of_allowsHoles (allowsHoles_of_hole hole) t.children

/-- Every node of a normalised program, at any depth, is well shaped. So the kinds of two such nodes,
of one program or of two, are equal exactly when their tags are. -/
theorem programNodes_wellShaped (o : Origin) (root : Tree) :
    ∀ n ∈ (programNodes o root).flatMap Node.subtrees,
      n.WellShaped o.filename ∧
      ∀ o' root', ∀ m ∈ (programNodes o' root').flatMap Node.subtrees,
        n.kind = m.kind ↔ n.kind.tag = m.kind.tag := by
  intro n hn
  have shaped := (made_of_mem_programNodes hn).wellShaped
  refine ⟨shaped, ?_⟩
  intro o' root' m hm
  exact shaped.canonical.eq_iff (made_of_mem_programNodes hm).wellShaped.canonical

/-- The shape of the array in a program, which has a hole. -/
theorem programNodes_wellShaped_sample :
    let nodes := (programNodes ⟨"a.js", "[,(x)];<a>b&lt;</a>"⟩ Tree.sample).flatMap Node.subtrees
    ∃ n ∈ nodes, none ∈ n.slots ∧ n.WellShaped "a.js" ∧
      ∀ m ∈ nodes, n.kind = m.kind ↔ n.kind.tag = m.kind.tag := by
  intro nodes
  have shaped := programNodes_wellShaped ⟨"a.js", "[,(x)];<a>b&lt;</a>"⟩ Tree.sample
  have bound : 1 < nodes.length := by decide
  have inside : nodes.get ⟨1, bound⟩ ∈ nodes := List.get_mem nodes _
  obtain ⟨array, kinds⟩ := shaped (nodes.get ⟨1, bound⟩) inside
  exact ⟨_, inside, List.mem_cons_self, array, kinds _ _⟩

end CodeClones.Cst
