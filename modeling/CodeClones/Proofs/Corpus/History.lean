import CodeClones.Proofs.Corpus.Keyed
import CodeClones.Proofs.Step

/-!
# What a run of additions leaves in a corpus

A run is a list of attempts to add a source, some of which may fail. Its history is the list of what
arrived: the files and texts of the attempts that succeeded, in order. `ofHistory` says what a corpus
with a given history holds, and the step lemma `afterAdd_ofHistory` that one more attempt adds its
arrival, or nothing when it fails. `addAll_eq_ofHistory` lifts this to whole runs, and
`addAll_reflects_history` reads off what the two stores of a corpus have to do with its history and
with each other.
-/

namespace CodeClones.Corpus

/-- An attempt to add a source under a path, with what the dialects make of the text. -/
structure Addition where
  path : String
  source : String
  trees : Trees

/-- A source that has been added, with the file that it was parsed to. -/
structure Arrival where
  file : SourceFile
  source : String

/-- The name that an arrival is kept under. -/
def Arrival.name (arrival : Arrival) : String :=
  arrival.file.filename

/-- The lines that an arrival leaves in the snapshot, under its name. -/
def Arrival.entry (arrival : Arrival) : String × List String :=
  (arrival.name, Text.lines arrival.source)

/-- What an attempt adds; nothing when the source is not parsed. -/
def Addition.arrival? (columnLimit : UInt32) (a : Addition) : Option Arrival :=
  match SourceFile.parseFile columnLimit a.path a.source a.trees with
  | .ok file => some ⟨file, a.source⟩
  | .error _ => none

/-- The history of a run: what its successful attempts added, in order. -/
def arrivals (columnLimit : UInt32) (run : List Addition) : List Arrival :=
  run.filterMap (Addition.arrival? columnLimit)

/-- The corpus after a run of attempts. -/
def addAll (corpus : Corpus) (run : List Addition) : Corpus :=
  run.foldl (fun corpus a => corpus.afterAdd a.path a.source a.trees) corpus

/-- The corpus that a history leaves: for each name the last arrival, in the order in which the names
arrived first. -/
def ofHistory (c : Config) (history : List Arrival) : Corpus where
  slack := c.slack
  columnLimit := c.columnLimit
  files := (Keyed.current Arrival.name history).map Arrival.file
  lines := ⟨(Keyed.current Arrival.name history).map Arrival.entry⟩

section Step

variable {corpus : Corpus} {path source : String} {trees : Trees}

/-- A source is parsed before anything is put in, so an attempt to add it that fails changes nothing. -/
lemma addStep_atomic (path source : String) (trees : Trees) : (addStep path source trees).Atomic :=
  Step.reads_get.bind_atomic fun _ =>
    (Step.reads_ofExcept _).bind_atomic fun _ =>
      ((Step.succeeds_modify _).bind fun _ => Step.succeeds_modify _).atomic

/-- An attempt succeeds or fails with its source. -/
lemma add_eq (corpus : Corpus) (path source : String) (trees : Trees) :
    corpus.add path source trees =
      (SourceFile.parseFile corpus.columnLimit path source trees).map fun file =>
        ⟨corpus.slack, corpus.columnLimit, putFile file corpus.files,
          corpus.lines.insertText file.filename source⟩ := by
  refine (Step.outcome_read
    (fun corpus : Corpus => SourceFile.parseFile corpus.columnLimit path source trees) _ corpus).trans ?_
  cases SourceFile.parseFile corpus.columnLimit path source trees with
  | error e => rfl
  | ok file => rfl

/-- An attempt fails exactly when its source is not parsed, whatever the corpus holds. -/
lemma add_eq_error_iff {e : SourceError} :
    corpus.add path source trees = .error e ↔
      SourceFile.parseFile corpus.columnLimit path source trees = .error e := by
  rw [add_eq]
  cases SourceFile.parseFile corpus.columnLimit path source trees with
  | error e' => simp [Except.map]
  | ok file => simp [Except.map]

/-- An attempt that fails leaves the corpus as it was. -/
lemma afterAdd_of_error {e : SourceError} (h : corpus.add path source trees = .error e) :
    corpus.afterAdd path source trees = corpus :=
  (addStep_atomic path source trees).after_of_error h

/-- An attempt that succeeds puts in the file and its lines. -/
lemma afterAdd_of_ok {file : SourceFile}
    (h : SourceFile.parseFile corpus.columnLimit path source trees = .ok file) :
    corpus.afterAdd path source trees =
      ⟨corpus.slack, corpus.columnLimit, putFile file corpus.files,
        corpus.lines.insertText file.filename source⟩ := by
  refine Step.after_of_ok (?_ : corpus.add path source trees = _)
  rw [add_eq, h]
  rfl

end Step

/-- One more arrival changes the files of a history as it changes those of a corpus. -/
lemma putFile_ofHistory (c : Config) (history : List Arrival) (arrival : Arrival) :
    putFile arrival.file (ofHistory c history).files =
      (ofHistory c (history ++ [arrival])).files := by
  rw [putFile_eq_put]
  exact Keyed.put_map_current Arrival.file history arrival

/-- One more arrival changes the lines of a history as it changes those of a corpus. -/
lemma insertText_ofHistory (c : Config) (history : List Arrival) (arrival : Arrival) :
    (ofHistory c history).lines.insertText arrival.name arrival.source =
      (ofHistory c (history ++ [arrival])).lines := by
  apply congrArg Snapshot.mk
  rw [Snapshot.put_eq_put]
  exact Keyed.put_map_current Arrival.entry history arrival

/-- One attempt adds its arrival to the history, or nothing when it fails. -/
lemma afterAdd_ofHistory (c : Config) (history : List Arrival) (a : Addition) :
    (ofHistory c history).afterAdd a.path a.source a.trees =
      ofHistory c (history ++ (a.arrival? c.columnLimit).toList) := by
  unfold Addition.arrival?
  cases h : SourceFile.parseFile c.columnLimit a.path a.source a.trees with
  | error e =>
    rw [Option.toList_none, List.append_nil]
    exact afterAdd_of_error (add_eq_error_iff.mpr h)
  | ok file =>
    have added : (ofHistory c history).afterAdd a.path a.source a.trees = _ := afterAdd_of_ok h
    rw [added, putFile_ofHistory c history ⟨file, a.source⟩]
    exact congrArg (Corpus.mk _ _ _) (insertText_ofHistory c history ⟨file, a.source⟩)

/-- The history of a run ends with what its last attempt added. -/
lemma arrivals_append (columnLimit : UInt32) (run : List Addition) (a : Addition) :
    arrivals columnLimit (run ++ [a]) =
      arrivals columnLimit run ++ (a.arrival? columnLimit).toList := by
  rw [arrivals, List.filterMap_append]
  cases h : a.arrival? columnLimit with
  | none => rw [List.filterMap_cons_none h]; rfl
  | some arrival => rw [List.filterMap_cons_some h]; rfl

/-- A run leaves the corpus of its history. -/
theorem addAll_eq_ofHistory (c : Config) (run : List Addition) :
    (ofConfig c).addAll run = ofHistory c (arrivals c.columnLimit run) := by
  -- the last attempt is the outermost step of the fold
  induction run using List.reverseRecOn with
  | nil => rfl
  | append_singleton run a ih =>
    rw [addAll, List.foldl_append]
    show ((ofConfig c).addAll run).afterAdd a.path a.source a.trees = _
    rw [ih, afterAdd_ofHistory, arrivals_append]

/-- The file of a name is that of the latest arrival under the name. -/
lemma get?_ofHistory (c : Config) (history : List Arrival) (name : String) :
    (ofHistory c history).get? name =
      (Keyed.latest? Arrival.name history name).map Arrival.file := by
  rw [get?, ofHistory, List.find?_map, ← Keyed.find?_current]
  rfl

/-- Looking up a name finds the lines of the first entry with the name. -/
lemma lookup_eq_find? (files : List (String × List String)) (name : String) :
    files.lookup name = (files.find? fun entry => entry.1 = name).map Prod.snd := by
  induction files with
  | nil => rfl
  | cons entry rest ih =>
    obtain ⟨other, lines⟩ := entry
    by_cases e : other = name
    · subst e
      simp
    · have e' : (name == other) = false := beq_false_of_ne (Ne.symm e)
      rw [List.lookup_cons, e', ih, List.find?_cons_of_neg (by simpa using e)]

/-- The lines of a name are those of the latest text that arrived under the name. -/
lemma get?_lines_ofHistory (c : Config) (history : List Arrival) (name : String) :
    (ofHistory c history).lines.get? name =
      (Keyed.latest? Arrival.name history name).map fun arrival => Text.lines arrival.source := by
  rw [Snapshot.get?, ofHistory, lookup_eq_find?, List.find?_map, ← Keyed.find?_current,
    Option.map_map]
  rfl

/-- There are lines for a name just when something has arrived under it. -/
lemma contains_lines_ofHistory (c : Config) (history : List Arrival) (name : String) :
    (ofHistory c history).lines.contains name =
      (Keyed.latest? Arrival.name history name).isSome := by
  rw [Snapshot.contains, get?_lines_ofHistory, Option.isSome_map]

/-- After any run of attempts, successful or not and with any names again and again, the corpus holds
exactly what the history of the run says. There is one file per name that was ever added, in the order
of first success, and it is what the latest success made of its text; the snapshot has the same
names, each with the lines of that same text. An attempt that fails from there, which depends on
nothing but its source, leaves everything as it was. -/
theorem addAll_reflects_history (c : Config) (run : List Addition) :
    let corpus := (ofConfig c).addAll run
    let history := arrivals c.columnLimit run
    let names := Keyed.firstKeys Arrival.name history
    let latest? := Keyed.latest? Arrival.name history
    corpus.files = names.filterMap (fun name => (latest? name).map Arrival.file) ∧
      corpus.files.map SourceFile.filename = names ∧
      names.Nodup ∧
      corpus.lines.files.map Prod.fst = names ∧
      (∀ name, corpus.lines.contains name ↔ name ∈ names) ∧
      (∀ name, corpus.lines.get? name =
        (latest? name).map fun arrival => Text.lines arrival.source) ∧
      (∀ name, corpus.get? name = (latest? name).map Arrival.file) ∧
      (∀ name, (corpus.get? name).isSome = corpus.lines.contains name) ∧
      (∀ a : Addition, ∀ e, corpus.add a.path a.source a.trees = .error e ↔
        SourceFile.parseFile c.columnLimit a.path a.source a.trees = .error e) ∧
      ∀ a : Addition, ∀ e, corpus.add a.path a.source a.trees = .error e →
        corpus.afterAdd a.path a.source a.trees = corpus := by
  intro corpus history names latest?
  have reached : corpus = ofHistory c history := addAll_eq_ofHistory c run
  have key : (SourceFile.filename ∘ Arrival.file) = Arrival.name := rfl
  have key' : (Prod.fst ∘ Arrival.entry) = Arrival.name := rfl
  rw [reached]
  -- both stores are images of the same entries of the history, so they have the same names
  refine ⟨?_, ?_, Keyed.nodup_firstKeys history, ?_, ?_, get?_lines_ofHistory c history,
    get?_ofHistory c history, ?_, ?_, ?_⟩
  · rw [ofHistory, Keyed.current, List.map_filterMap]
  · rw [ofHistory, List.map_map, key, Keyed.map_key_current]
  · rw [ofHistory, List.map_map, key', Keyed.map_key_current]
  · intro name
    rw [contains_lines_ofHistory, Keyed.isSome_latest?_iff]
  · intro name
    rw [contains_lines_ofHistory, get?_ofHistory, Option.isSome_map]
  · intro a e
    exact add_eq_error_iff
  · intro a e failed
    exact afterAdd_of_error failed

end CodeClones.Corpus
