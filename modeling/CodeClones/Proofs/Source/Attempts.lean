import CodeClones.Proofs.Cst.Subtrees
import CodeClones.Source.File
import Mathlib.Tactic.ByContra

/-!
# Trying the dialects of a source

The search for a fault never looks back: it goes from a node into the first child that is flagged, and
so on down. Where the flags of a tree say what they are meant to say (`Tree.Flagged`), it ends at the
first node at fault in the order of the source all the same (`Tree.firstFault?_eq_some`), so that a tree
without a fault is one without a node at fault (`Fault.find?_eq_map`).

What comes of a run of attempts is said for any dialects and any trees: the first sound tree is the one
that counts (`Attempt.findSome?_run`), and where none is sound every dialect has been tried
(`Attempt.run_eq_map`). The main statement is `SourceFile.parse_first_sound`.
-/

namespace CodeClones

namespace Cst.Tree

/-- Whether a node is itself at fault. -/
def atFault (t : Tree) : Bool :=
  t.isError || t.isMissing

/-- Nothing is at fault anywhere in the tree. -/
def Sound (root : Tree) : Prop :=
  ∀ t ∈ root.subtrees, t.atFault = false

/-- Every node is flagged exactly when it is at fault itself or something below it is. -/
def Flagged (root : Tree) : Prop :=
  ∀ t ∈ root.subtrees, t.hasError ↔ ∃ s ∈ t.subtrees, s.atFault

instance (root : Tree) : Decidable root.Flagged :=
  inferInstanceAs (Decidable (∀ t ∈ root.subtrees, t.hasError ↔ ∃ s ∈ t.subtrees, s.atFault))

/-- The first node at fault, where a node comes before what is below it. -/
def firstFault? (root : Tree) : Option Tree :=
  root.subtrees.find? atFault

/-- The flags of a child are as exact as those of the whole tree. -/
lemma Flagged.child {t child : Tree} (h : t.Flagged) (hc : child ∈ t.children) : child.Flagged :=
  fun s hs => h s (mem_subtrees_of_child hc hs)

/-- There is no first fault just when the tree is sound. -/
lemma firstFault?_eq_none_iff {t : Tree} : t.firstFault? = none ↔ t.Sound := by
  rw [firstFault?, List.find?_eq_none]
  exact forall₂_congr fun s _ => Bool.eq_false_iff.symm

/-- With exact flags, a tree is not flagged just when it is sound. -/
lemma Flagged.hasError_eq_false_iff {t : Tree} (h : t.Flagged) : t.hasError = false ↔ t.Sound := by
  rw [← Bool.not_eq_true, h t t.mem_subtrees_self]
  push Not
  exact forall₂_congr fun s _ => Bool.eq_false_iff.symm

/-- A node that is at fault itself is the one that is reported. -/
lemma faultNode_of_atFault {t : Tree} (h : t.atFault) : t.faultNode = t := by
  cases t
  rw [faultNode]
  exact if_pos h

/-- A node that is not at fault itself has the first fault below its children reported, if there is
one. -/
lemma faultNode_of_not_atFault {t : Tree} (h : t.atFault = false) :
    t.faultNode = (firstFaulty t.children).getD t := by
  cases t
  rw [faultNode]
  exact if_neg (Bool.eq_false_iff.mp h)

/-- Below siblings the search finds the first node at fault, given that it does below each of them. -/
lemma firstFaulty_eq_find? {children : List Tree} (flagged : ∀ child ∈ children, child.Flagged)
    (each : ∀ child ∈ children, child.hasError → child.firstFault? = some child.faultNode) :
    firstFaulty children = (forestSubtrees children).find? atFault := by
  induction children with
  | nil => rw [firstFaulty, forestSubtrees, List.find?_nil]
  | cons child rest ih =>
    have ih := ih (fun c hc => flagged c (List.mem_cons_of_mem _ hc))
      fun c hc => each c (List.mem_cons_of_mem _ hc)
    rw [firstFaulty, forestSubtrees, List.find?_append, ← firstFault?, ih]
    cases flag : child.hasError with
    | true =>
      rw [each child List.mem_cons_self flag, if_pos rfl]
      rfl
    | false =>
      have sound := (flagged child List.mem_cons_self).hasError_eq_false_iff.mp flag
      rw [firstFault?_eq_none_iff.mpr sound, if_neg Bool.false_ne_true]
      rfl

/-- The search ends at the first node at fault. -/
lemma firstFault?_eq_some (t : Tree) : t.Flagged → t.hasError → t.firstFault? = some t.faultNode := by
  induction t using Tree.induct with
  | step t ih =>
    intro flagged flag
    have below : firstFaulty t.children = (forestSubtrees t.children).find? atFault :=
      firstFaulty_eq_find? (fun c hc => flagged.child hc) fun c hc => ih c hc (flagged.child hc)
    rw [firstFault?, subtrees_eq]
    cases fault : t.atFault with
    | true => rw [List.find?_cons_of_pos fault, faultNode_of_atFault fault]
    | false =>
      rw [List.find?_cons_of_neg (Bool.eq_false_iff.mp fault), faultNode_of_not_atFault fault, below]
      -- the flag of the node comes from somewhere, and not from the node itself
      obtain ⟨s, hs, faulty⟩ := (flagged t t.mem_subtrees_self).mp flag
      rw [subtrees_eq, List.mem_cons] at hs
      rcases hs with rfl | hs
      · rw [fault] at faulty
        cases faulty
      · have found : ((forestSubtrees t.children).find? atFault).isSome :=
          List.find?_isSome.mpr ⟨s, hs, faulty⟩
        obtain ⟨node, found⟩ := Option.isSome_iff_exists.mp found
        rw [found, Option.getD_some]

end Cst.Tree

/-- The fault of a tree is that of its first node at fault. -/
lemma Fault.find?_eq_map {root : Cst.Tree} (h : root.Flagged) :
    Fault.find? root = root.firstFault?.map Fault.ofNode := by
  rw [Fault.find?]
  cases flag : root.hasError with
  | true => rw [if_pos rfl, root.firstFault?_eq_some h flag, Option.map_some]
  | false =>
    have sound := h.hasError_eq_false_iff.mp flag
    rw [if_neg Bool.false_ne_true, Cst.Tree.firstFault?_eq_none_iff.mpr sound, Option.map_none]

namespace Attempt

variable {trees : Trees} {dialects : List Dialect}

/-- A run has the first attempt that succeeds. -/
lemma findSome?_run (trees : Trees) (dialects : List Dialect) :
    (run trees dialects).findSome? sound? = dialects.findSome? fun d => (make trees d).sound? := by
  induction dialects with
  | nil => rfl
  | cons dialect rest ih =>
    rw [run, List.findSome?_cons]
    cases make trees dialect with
    | noTree d => exact ih
    | faulty d fault => exact ih
    | sound d root => rfl

/-- A run without success goes through all dialects. -/
lemma run_eq_map (h : ∀ d ∈ dialects, (make trees d).sound? = none) :
    run trees dialects = dialects.map (make trees) := by
  induction dialects with
  | nil => rfl
  | cons dialect rest ih =>
    have here := h dialect List.mem_cons_self
    rw [run, List.map_cons, ih fun d hd => h d (List.mem_cons_of_mem _ hd)]
    cases e : make trees dialect with
    | noTree d => rfl
    | faulty d fault => rfl
    | sound d root =>
      rw [e] at here
      cases here

/-- An attempt that succeeds is one with the tree of its dialect. -/
lemma sound?_make {d dialect : Dialect} {root : Cst.Tree}
    (h : (make trees d).sound? = some (dialect, root)) : d = dialect ∧ trees d = some root := by
  unfold make at h
  cases given : trees d with
  | none =>
    rw [given] at h
    cases h
  | some root' =>
    rw [given] at h
    cases found : Fault.find? root' with
    | some fault =>
      simp only [found] at h
      cases h
    | none =>
      simp only [found] at h
      cases h
      exact ⟨rfl, rfl⟩

section Flagged

variable {tree : Dialect → Cst.Tree} {dialect : Dialect} (flagged : (tree dialect).Flagged)
include flagged

/-- A dialect with a sound tree accepts the source. -/
lemma make_of_sound (h : (tree dialect).Sound) :
    make (fun d => some (tree d)) dialect = sound dialect (tree dialect) := by
  rw [make]
  simp only [Fault.find?_eq_map flagged, Cst.Tree.firstFault?_eq_none_iff.mpr h, Option.map_none]

/-- A dialect with a faulty tree reports the first node at fault. -/
lemma make_of_not_sound (h : ¬ (tree dialect).Sound) :
    ∃ node, (tree dialect).firstFault? = some node ∧
      make (fun d => some (tree d)) dialect = faulty dialect (.ofNode node) := by
  have found : (tree dialect).firstFault? ≠ none :=
    fun e => h (Cst.Tree.firstFault?_eq_none_iff.mp e)
  obtain ⟨node, found⟩ := Option.ne_none_iff_exists'.mp found
  refine ⟨node, found, ?_⟩
  rw [make]
  simp only [Fault.find?_eq_map flagged, found, Option.map_some]

end Flagged

end Attempt

namespace SourceFile

section Parse

variable {columnLimit : UInt32} {filename source : String} {language : Language} {trees : Trees}

/-- The first attempt that succeeds decides what a source is parsed to. -/
lemma parse_of_success {dialect : Dialect} {root : Cst.Tree}
    (h : (language.dialects.findSome? fun d => (Attempt.make trees d).sound?) =
      some (dialect, root)) :
    parse columnLimit filename language source trees =
      .ok ⟨filename, language, dialect, Cst.programNodes ⟨filename, source⟩ root⟩ := by
  simp only [parse, Attempt.findSome?_run, h]

/-- Where no attempt succeeds, the last fault of them all is reported. -/
lemma parse_of_failure {fault : Fault}
    (h : ∀ d ∈ language.dialects, (Attempt.make trees d).sound? = none)
    (last : Attempt.lastFault (language.dialects.map (Attempt.make trees)) = fault) :
    parse columnLimit filename language source trees =
      .error (.unparsed filename fault.message (fault.context source columnLimit)) := by
  have none_sound : (Attempt.run trees language.dialects).findSome? Attempt.sound? = none := by
    rw [Attempt.findSome?_run, List.findSome?_eq_none_iff]
    exact h
  simp only [parse, none_sound]
  rw [Attempt.run_eq_map h, last]

/-- A source that was parsed has the nodes of the tree that its dialect made. -/
lemma parse_inv {file : SourceFile}
    (h : parse columnLimit filename language source trees = .ok file) :
    ∃ root, trees file.dialect = some root ∧
      file.nodes = Cst.programNodes ⟨filename, source⟩ root := by
  cases success : language.dialects.findSome? fun d => (Attempt.make trees d).sound? with
  | some found =>
    obtain ⟨dialect, root⟩ := found
    obtain ⟨d, -, made⟩ := List.exists_of_findSome?_eq_some success
    obtain ⟨rfl, given⟩ := Attempt.sound?_make made
    rw [parse_of_success success] at h
    cases h
    exact ⟨root, given, rfl⟩
  | none =>
    rw [parse_of_failure (List.findSome?_eq_none_iff.mp success) rfl] at h
    cases h

/-- A source that was not parsed has the last fault of its dialects reported. -/
lemma parse_eq_error {e : SourceError}
    (h : parse columnLimit filename language source trees = .error e) :
    let fault := Attempt.lastFault (language.dialects.map (Attempt.make trees))
    e = .unparsed filename fault.message (fault.context source columnLimit) := by
  cases success : language.dialects.findSome? fun d => (Attempt.make trees d).sound? with
  | some found =>
    rw [parse_of_success success] at h
    cases h
  | none =>
    rw [parse_of_failure (List.findSome?_eq_none_iff.mp success) rfl] at h
    cases h
    rfl

end Parse

/-- A source is tried with two dialects, whose trees are flagged as they should be. It is parsed exactly
when one of the trees has no node at fault. Then the first such tree is taken, and its dialect
recorded. Otherwise the report is about the first node at fault in the last tree: it says what is wrong
with the node and where it starts, and the excerpt is taken there. -/
theorem parse_first_sound (columnLimit : UInt32) (filename source : String) (language : Language)
    (tree : Dialect → Cst.Tree) (flagged : ∀ dialect, (tree dialect).Flagged) :
    let parsed := parse columnLimit filename language source fun dialect => some (tree dialect)
    let fileOf dialect : SourceFile :=
      ⟨filename, language, dialect, Cst.programNodes ⟨filename, source⟩ (tree dialect)⟩
    ∃ first last, language.dialects = [first, last] ∧
      ((∃ file, parsed = .ok file) ↔ (tree first).Sound ∨ (tree last).Sound) ∧
      ((tree first).Sound → parsed = .ok (fileOf first)) ∧
      (¬ (tree first).Sound → (tree last).Sound → parsed = .ok (fileOf last)) ∧
      (¬ (tree first).Sound → ¬ (tree last).Sound →
        ∃ node, (tree last).subtrees.find? (fun t => t.isError || t.isMissing) = some node ∧
          let message :=
            (if node.isMissing then "missing " ++ node.kind else "unexpected token") ++
              " (" ++ node.start.position.text ++ ")"
          let excerpt := Fault.context ⟨message, some node.start.position⟩ source columnLimit
          parsed = .error (.unparsed filename message excerpt)) := by
  intro parsed fileOf
  obtain ⟨first, last, dialects⟩ : ∃ first last, language.dialects = [first, last] := by
    cases language <;> exact ⟨_, _, rfl⟩
  have ofFirst : (tree first).Sound → parsed = .ok (fileOf first) := by
    intro sound
    apply parse_of_success
    rw [dialects, List.findSome?_cons, Attempt.make_of_sound (flagged first) sound]
    rfl
  have ofLast : ¬ (tree first).Sound → (tree last).Sound → parsed = .ok (fileOf last) := by
    intro unsound sound
    obtain ⟨node, -, made⟩ := Attempt.make_of_not_sound (flagged first) unsound
    apply parse_of_success
    rw [dialects, List.findSome?_cons, made, List.findSome?_cons,
      Attempt.make_of_sound (flagged last) sound]
    rfl
  have ofNone : ¬ (tree first).Sound → ¬ (tree last).Sound →
      ∃ node, (tree last).firstFault? = some node ∧
        parsed = .error (.unparsed filename (Fault.ofNode node).message
          ((Fault.ofNode node).context source columnLimit)) := by
    intro unsound unsound'
    obtain ⟨node, -, made⟩ := Attempt.make_of_not_sound (flagged first) unsound
    obtain ⟨node', found, made'⟩ := Attempt.make_of_not_sound (flagged last) unsound'
    refine ⟨node', found, parse_of_failure ?_ ?_⟩
    · rw [dialects, List.forall_mem_cons, List.forall_mem_singleton, made, made']
      exact ⟨rfl, rfl⟩
    · rw [dialects, List.map_cons, List.map_singleton, made, made']
      rfl
  refine ⟨first, last, dialects, ⟨?_, ?_⟩, ofFirst, ofLast, ofNone⟩
  · rintro ⟨file, ok⟩
    by_contra unsound
    obtain ⟨unsound, unsound'⟩ := not_or.mp unsound
    obtain ⟨node, -, report⟩ := ofNone unsound unsound'
    cases ok.symm.trans report
  · rintro (sound | sound)
    · exact ⟨_, ofFirst sound⟩
    · by_cases h : (tree first).Sound
      · exact ⟨_, ofFirst h⟩
      · exact ⟨_, ofLast h sound⟩

/-- The tree of `f(x`, where a parenthesis is missing below a node that is not the first child. -/
def unclosed : Cst.Tree :=
  { Cst.Tree.onFirstRow "program" true 0 3 [
    { Cst.Tree.onFirstRow "call_expression" true 0 3 [
      .onFirstRow "identifier" true 0 1 [],
      { Cst.Tree.onFirstRow "arguments" true 1 3 [
        .onFirstRow "(" false 1 2 [],
        .onFirstRow "identifier" true 2 3 [],
        { Cst.Tree.onFirstRow ")" false 3 3 [] with isMissing := true, hasError := true }]
        with hasError := true }]
      with hasError := true }]
    with hasError := true }

/-- Both dialects miss the parenthesis. -/
theorem parse_first_sound_sample :
    unclosed.Flagged ∧ ¬ unclosed.Sound ∧
      parse 100 "a.ts" .typeScript "f(x" (fun _ => some unclosed) =
        .error (.unparsed "a.ts" "missing ) (1:3)" "\nf(x\n   ^") := by
  have flagged : unclosed.Flagged := by decide
  have unsound : ¬ unclosed.Sound := by
    intro sound
    cases flagged.hasError_eq_false_iff.mpr sound
  obtain ⟨first, last, -, -, -, -, report⟩ :=
    parse_first_sound 100 "a.ts" "f(x" .typeScript (fun _ => unclosed) fun _ => flagged
  obtain ⟨node, found, e⟩ := report unsound unsound
  cases found
  exact ⟨flagged, unsound, e⟩

end SourceFile

end CodeClones
