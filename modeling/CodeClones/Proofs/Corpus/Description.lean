import CodeClones.Proofs.Clone.Filling
import CodeClones.Proofs.Corpus.History
import CodeClones.Proofs.Cst.Inversion

/-!
# Describing nodes of a corpus

Groups of nodes that are drawn from the files of a corpus, at any depth, can always be described: the
lines of their files are there. The reason is an invariant of parsed files, `filename_of_mem_file`:
every node carries the name that its file is kept under, and by the history of the corpus the snapshot
has lines for every such name, those of the latest text.
-/

namespace CodeClones

/-- A file that was parsed has the name of its path, and the nodes of one concrete tree. -/
lemma SourceFile.parseFile_inv {columnLimit : UInt32} {path source : String} {trees : Trees}
    {file : SourceFile} (h : parseFile columnLimit path source trees = .ok file) :
    file.filename = path ∧ ∃ root, file.nodes = Cst.programNodes ⟨path, source⟩ root := by
  unfold parseFile at h
  cases hl : languageOf path with
  | error e =>
    rw [hl] at h
    cases h
  | ok language =>
    rw [hl] at h
    simp only [parse] at h
    split at h
    · rename_i dialect root _
      cases h
      exact ⟨rfl, root, rfl⟩
    · cases h

namespace Corpus

/-- Every node of a file that was added, at any depth, carries the name of the file. -/
lemma filename_of_mem_file {columnLimit : UInt32} {run : List Addition} {arrival : Arrival}
    {n : Node} (ha : arrival ∈ arrivals columnLimit run)
    (hn : n ∈ arrival.file.nodes.flatMap Node.subtrees) : n.span.filename = arrival.name := by
  obtain ⟨a, -, ha⟩ := List.mem_filterMap.mp ha
  unfold Addition.arrival? at ha
  split at ha
  · rename_i file hp
    cases ha
    obtain ⟨name, root, nodes⟩ := SourceFile.parseFile_inv hp
    rw [nodes] at hn
    exact (Cst.made_of_mem_programNodes hn).filename.trans name.symm
  · cases ha

/-- A file of a corpus is what the latest arrival under its name was parsed to. -/
lemma latest?_of_mem_files {c : Config} {history : List Arrival} {file : SourceFile}
    (h : file ∈ (ofHistory c history).files) :
    ∃ arrival ∈ history, arrival.file = file ∧
      Keyed.latest? Arrival.name history arrival.name = some arrival := by
  obtain ⟨arrival, ha, rfl⟩ := List.mem_map.mp h
  obtain ⟨name, -, latest⟩ := List.mem_filterMap.mp ha
  have mem : arrival ∈ history := List.mem_reverse.mp (List.mem_of_find?_eq_some latest)
  refine ⟨arrival, mem, rfl, ?_⟩
  rw [Keyed.key_of_latest? latest]
  exact latest

/-- The snapshot has the lines of any file that a node comes from: those of its latest text. -/
lemma get?_lines_of_drawn {c : Config} {run : List Addition} {n : Node} {file : SourceFile}
    (hf : file ∈ ((ofConfig c).addAll run).files) (hn : n ∈ file.nodes.flatMap Node.subtrees) :
    ∃ arrival, Keyed.latest? Arrival.name (arrivals c.columnLimit run) n.span.filename =
        some arrival ∧
      ((ofConfig c).addAll run).lines.get? n.span.filename = some (Text.lines arrival.source) := by
  rw [addAll_eq_ofHistory] at hf ⊢
  obtain ⟨arrival, mem, rfl, latest⟩ := latest?_of_mem_files hf
  have name := filename_of_mem_file mem hn
  refine ⟨arrival, name ▸ latest, ?_⟩
  rw [name, get?_lines_ofHistory, latest, Option.map_some]

section Describe

variable {corpus : Corpus} {groups : List (List Node)}

/-- The first empty group is the one that is reported. -/
lemma describe_of_empty {index : Nat} (h : groups.findIdx? List.isEmpty = some index) :
    corpus.describe groups = .error (.emptyGroup index) := by
  cases groups with
  | nil => cases h
  | cons group rest =>
    have build : Clone.ofGroups corpus.slack (group :: rest) = .error (.emptyGroup index) := by
      rw [Clone.ofGroups, if_neg (by simp), Clone.occurrencesFrom_eq, h]
      show Except.error (CloneError.emptyGroup (0 + index)) = _
      rw [Nat.zero_add]
    rw [describe, build]

variable (known : ∀ group ∈ groups, ∀ n ∈ group, corpus.lines.contains n.span.filename)
include known

/-- Groups with nodes in known files have an occurrence each, with lines. -/
lemma describe_of_known (some_group : groups ≠ [])
    (full : groups.findIdx? List.isEmpty = none) :
    corpus.describe groups = .ok ⟨fingerprint groups,
      (groups.filterMap (Occurrence.ofGroup? corpus.slack)).map fun o =>
        { o with lines := o.excerpt? corpus.lines }⟩ := by
  have found : (groups.filterMap (Occurrence.ofGroup? corpus.slack)).find?
      (fun o => !corpus.lines.contains o.filename) = none := by
    rw [List.find?_eq_none]
    intro o ho
    obtain ⟨group, hg, ho⟩ := List.mem_filterMap.mp ho
    obtain ⟨n, hn, name⟩ := Occurrence.filename_of_ofGroup? ho
    rw [name, known group hg n hn]
    decide
  rw [describe, Clone.ofGroups_of_full some_group full]
  show Clone.fill _ _ = _
  rw [Clone.fill_eq, found]

/-- What describing groups comes to when their nodes lie in known files. -/
lemma describe_cases :
    (groups = [] ∧ corpus.describe groups = .error .noGroups) ∨
    (∃ index, groups.findIdx? List.isEmpty = some index ∧
      corpus.describe groups = .error (.emptyGroup index)) ∨
    (groups ≠ [] ∧ groups.findIdx? List.isEmpty = none ∧
      corpus.describe groups = .ok ⟨fingerprint groups,
        (groups.filterMap (Occurrence.ofGroup? corpus.slack)).map fun o =>
          { o with lines := o.excerpt? corpus.lines }⟩) := by
  by_cases h : groups = []
  · subst h
    exact .inl ⟨rfl, rfl⟩
  · cases empty : groups.findIdx? List.isEmpty with
    | some index => exact .inr (.inl ⟨index, rfl, describe_of_empty empty⟩)
    | none => exact .inr (.inr ⟨h, rfl, describe_of_known known h empty⟩)

/-- No file is reported as unknown where the nodes lie in known files. -/
lemma describe_ne_unknownFile (filename : String) :
    corpus.describe groups ≠ .error (.unknownFile filename) := by
  intro e
  rcases describe_cases known with ⟨-, e'⟩ | ⟨i, -, e'⟩ | ⟨-, -, e'⟩
  · cases e.symm.trans e'
  · cases e.symm.trans e'
  · cases e.symm.trans e'

/-- Having no groups is reported just when there are none. -/
lemma describe_eq_noGroups_iff : corpus.describe groups = .error .noGroups ↔ groups = [] := by
  rcases describe_cases known with ⟨none, e⟩ | ⟨i, empty, e⟩ | ⟨some_group, -, e⟩
  · exact iff_of_true e none
  · refine iff_of_false (by rw [e]; simp) ?_
    rintro rfl
    cases empty
  · exact iff_of_false (by rw [e]; simp) some_group

/-- An empty group is reported just when it is the first of them. -/
lemma describe_eq_emptyGroup_iff {index : Nat} :
    corpus.describe groups = .error (.emptyGroup index) ↔
      groups.findIdx? List.isEmpty = some index := by
  rcases describe_cases known with ⟨none, e⟩ | ⟨i, empty, e⟩ | ⟨-, full, e⟩
  · rw [e, none]
    simp
  · rw [e, empty]
    simp
  · rw [e, full]
    simp

end Describe

/-- The index found is that of an empty group with no empty one before it. -/
lemma findIdx?_isEmpty_eq_some_iff {groups : List (List Node)} {index : Nat} :
    groups.findIdx? List.isEmpty = some index ↔
      groups[index]? = some [] ∧ ∀ j < index, groups[j]? ≠ some [] := by
  rw [List.findIdx?_eq_some_iff_getElem]
  constructor
  · rintro ⟨h, empty, earlier⟩
    refine ⟨?_, ?_⟩
    · rw [List.getElem?_eq_getElem h, List.isEmpty_iff.mp empty]
    · intro j hj e
      obtain ⟨hj', e⟩ := List.getElem?_eq_some_iff.mp e
      exact earlier j hj (by rw [e]; rfl)
  · rintro ⟨empty, earlier⟩
    obtain ⟨h, e⟩ := List.getElem?_eq_some_iff.mp empty
    refine ⟨h, by rw [e]; rfl, ?_⟩
    intro j hj hempty
    refine earlier j hj ?_
    rw [List.getElem?_eq_getElem (Nat.lt_trans hj h), List.isEmpty_iff.mp hempty]

/-- Describing groups of nodes that are drawn from the files of a corpus, after any run of attempts to
add sources and at any depth of their trees, never fails for want of lines. No group at all and an
empty group are the only obstacles, each reported as such. Otherwise there is one occurrence for each
group, in the file of the group's first node, with the lines that it spans in the latest text of that
file, moved to the margin. -/
theorem describe_of_drawn (c : Config) (run : List Addition) (groups : List (List Node))
    (drawn : ∀ group ∈ groups, ∀ n ∈ group,
      ∃ file ∈ ((ofConfig c).addAll run).files, n ∈ file.nodes.flatMap Node.subtrees) :
    let corpus := (ofConfig c).addAll run
    let latest? := Keyed.latest? Arrival.name (arrivals c.columnLimit run)
    (∀ filename, corpus.describe groups ≠ .error (.unknownFile filename)) ∧
    (corpus.describe groups = .error .noGroups ↔ groups = []) ∧
    (∀ index, corpus.describe groups = .error (.emptyGroup index) ↔
      groups[index]? = some [] ∧ ∀ j < index, groups[j]? ≠ some []) ∧
    (groups ≠ [] → (∀ group ∈ groups, group ≠ []) →
      ∃ clone, corpus.describe groups = .ok clone ∧
        clone.hash = fingerprint groups ∧
        clone.occurrences.length = groups.length ∧
        ∀ (i : Nat) (first : Node) (rest : List Node), groups[i]? = some (first :: rest) →
          ∃ o arrival, clone.occurrences[i]? = some o ∧
            latest? first.span.filename = some arrival ∧
            o.filename = first.span.filename ∧
            Bounds.ofGroup? c.slack (first :: rest) = some (o.start, o.stop) ∧
            o.lines = some (Text.dedent (Text.joinPieces
              (linesBetween (Text.lines arrival.source) o.start.line.toNat o.stop.line.toNat)))) := by
  intro corpus latest?
  have slack : corpus.slack = c.slack := by
    rw [show corpus = ofHistory c _ from addAll_eq_ofHistory c run]
    rfl
  have lines : ∀ group ∈ groups, ∀ n ∈ group, ∃ arrival, latest? n.span.filename = some arrival ∧
      corpus.lines.get? n.span.filename = some (Text.lines arrival.source) := by
    intro group hg n hn
    obtain ⟨file, hf, hn⟩ := drawn group hg n hn
    exact get?_lines_of_drawn hf hn
  have known : ∀ group ∈ groups, ∀ n ∈ group, corpus.lines.contains n.span.filename := by
    intro group hg n hn
    obtain ⟨arrival, -, h⟩ := lines group hg n hn
    rw [Snapshot.contains, h]
    rfl
  refine ⟨describe_ne_unknownFile known, describe_eq_noGroups_iff known, ?_, ?_⟩
  · intro index
    rw [describe_eq_emptyGroup_iff known, findIdx?_isEmpty_eq_some_iff]
  · intro some_group full
    have none_empty : groups.findIdx? List.isEmpty = none := by
      rw [List.findIdx?_eq_none_iff]
      intro group hg
      exact List.isEmpty_eq_false_iff.mpr (full group hg)
    refine ⟨_, describe_of_known known some_group none_empty, rfl, ?_, ?_⟩
    · rw [List.length_map, ← List.length_map some,
        Occurrence.map_some_filterMap_ofGroup? corpus.slack full, List.length_map]
    · intro i first rest hi
      obtain ⟨arrival, latest, content⟩ :=
        lines _ (List.mem_of_getElem? hi) first List.mem_cons_self
      -- the occurrence as it is built, before its lines are filled in
      let o : Occurrence :=
        ⟨first.span.filename, Bounds.start first rest, Bounds.stop c.slack first rest, none⟩
      have here : (groups.filterMap (Occurrence.ofGroup? corpus.slack))[i]? = some o := by
        rw [Occurrence.getElem?_filterMap_ofGroup? corpus.slack full hi, slack]
        rfl
      refine ⟨{ o with lines := o.excerpt? corpus.lines }, arrival, ?_, latest, rfl, rfl, ?_⟩
      · rw [List.getElem?_map, here, Option.map_some]
      · show (corpus.lines.get? first.span.filename).map _ = _
        rw [content, Option.map_some, excerpt_eq]

/-- A run that adds an empty file, fails once, and adds another text under the name of the file. -/
def sampleRun : List Addition :=
  [⟨"a.js", "", fun _ => some (.onFirstRow "program" true 0 0 [])⟩,
    ⟨"a", "[,(x)];<a>b&lt;</a>", fun _ => none⟩,
    ⟨"a.js", "[,(x)];<a>b&lt;</a>", fun _ => some .sample⟩]

/-- One group of all nodes that the file has in the end, at every depth. -/
def sampleGroups : List (List Node) :=
  [(Cst.programNodes ⟨"a.js", "[,(x)];<a>b&lt;</a>"⟩ .sample).flatMap Node.subtrees]

/-- Describing all nodes of a file that was replaced. -/
theorem describe_of_drawn_sample :
    (∀ group ∈ sampleGroups, ∀ n ∈ group,
      ∃ file ∈ ((ofConfig .default).addAll sampleRun).files,
        n ∈ file.nodes.flatMap Node.subtrees) ∧
      ∃ clone, ((ofConfig .default).addAll sampleRun).describe sampleGroups = .ok clone ∧
        clone.occurrences.length = 1 := by
  have files : ((ofConfig .default).addAll sampleRun).files =
      [⟨"a.js", .javaScript, .tsx, Cst.programNodes ⟨"a.js", "[,(x)];<a>b&lt;</a>"⟩ .sample⟩] := rfl
  have drawn : ∀ group ∈ sampleGroups, ∀ n ∈ group,
      ∃ file ∈ ((ofConfig .default).addAll sampleRun).files,
        n ∈ file.nodes.flatMap Node.subtrees := by
    intro group hg n hn
    obtain rfl := List.mem_singleton.mp hg
    rw [files]
    exact ⟨_, List.mem_singleton_self _, hn⟩
  have full : ∀ group ∈ sampleGroups, group ≠ [] := by
    intro group hg
    obtain rfl := List.mem_singleton.mp hg
    exact List.cons_ne_nil _ _
  obtain ⟨-, -, -, success⟩ := describe_of_drawn .default sampleRun sampleGroups drawn
  obtain ⟨clone, described, -, length, -⟩ := success (List.cons_ne_nil _ _) full
  exact ⟨drawn, clone, described, length⟩

end Corpus

end CodeClones
