import CodeClones.Proofs.Clone.Filling
import Mathlib.Data.List.Forall2
import Mathlib.Data.List.Induction

/-!
# Filling a clone again and again

A clone may be filled any number of times, each time from another snapshot, and any of the attempts may
fail. One attempt replaces all lines or does nothing (`afterFill_eq`), and filling looks at nothing that
it changes. So a run of attempts leaves what its last success left, or the clone as it was
(`afterFills_cases`). The main statement is `afterFills_last_success`.
-/

namespace CodeClones

/-- Where an occurrence lies: all of it but its lines. -/
def Occurrence.place (o : Occurrence) : String × Position × Position :=
  (o.filename, o.start, o.stop)

namespace Clone

/-- The clone after a run of attempts to fill it. -/
def afterFills (c : Clone) (run : List Snapshot) : Clone :=
  run.foldl (fun c files => c.afterFill files) c

/-- Whether a snapshot has the files of all occurrences. -/
def isCovered (c : Clone) (files : Snapshot) : Bool :=
  c.occurrences.all fun o => files.contains o.filename

/-- The clone with the lines that a snapshot has for its occurrences. -/
def filledFrom (c : Clone) (files : Snapshot) : Clone :=
  { c with occurrences := c.occurrences.map fun o => { o with lines := o.excerpt? files } }

section Attempt

variable {c : Clone} {files : Snapshot}

/-- An attempt succeeds for all occurrences, or fails at the first whose file is not known. -/
lemma fill_cases (c : Clone) (files : Snapshot) :
    (c.isCovered files ∧ c.fill files = .ok (c.filledFrom files)) ∨
    (c.isCovered files = false ∧
      ∃ o, c.occurrences.find? (fun o => !files.contains o.filename) = some o ∧
        c.fill files = .error (.unknownFile o.filename)) := by
  rw [fill_eq]
  cases found : c.occurrences.find? (fun o => !files.contains o.filename) with
  | none =>
    refine .inl ⟨?_, rfl⟩
    rw [isCovered, List.all_eq_true]
    simpa using List.find?_eq_none.mp found
  | some o =>
    refine .inr ⟨?_, o, rfl, rfl⟩
    rw [isCovered, List.all_eq_false]
    exact ⟨o, List.mem_of_find?_eq_some found, by simpa using List.find?_some found⟩

/-- An attempt fails with the file of the first occurrence whose file is not known. -/
lemma fill_eq_error_iff {e : CloneError} :
    c.fill files = .error e ↔
      ∃ earlier o later, c.occurrences = earlier ++ o :: later ∧
        (∀ p ∈ earlier, files.contains p.filename) ∧ files.contains o.filename = false ∧
        e = .unknownFile o.filename := by
  constructor
  · intro failed
    rcases fill_cases c files with ⟨-, e'⟩ | ⟨-, o, found, e'⟩
    · cases failed.symm.trans e'
    · cases failed.symm.trans e'
      obtain ⟨missing, earlier, later, parts, known⟩ := List.find?_eq_some_iff_append.mp found
      exact ⟨earlier, o, later, parts, by simpa using known, by simpa using missing, rfl⟩
  · rintro ⟨earlier, o, later, parts, known, missing, rfl⟩
    have found : c.occurrences.find? (fun o => !files.contains o.filename) = some o :=
      List.find?_eq_some_iff_append.mpr
        ⟨by simpa using missing, earlier, later, parts, by simpa using known⟩
    rw [fill_eq, found]

/-- An attempt succeeds just when the files of all occurrences are known. -/
lemma isOk_fill : (c.fill files).isOk = c.isCovered files := by
  rcases fill_cases c files with ⟨covered, e⟩ | ⟨missing, o, -, e⟩
  · rw [e, covered]
    rfl
  · rw [e, missing]
    rfl

/-- An attempt replaces the lines of all occurrences or does nothing. -/
lemma afterFill_eq (c : Clone) (files : Snapshot) :
    c.afterFill files = if c.isCovered files then c.filledFrom files else c := by
  rcases fill_cases c files with ⟨covered, success⟩ | ⟨missing, o, -, failed⟩
  · rw [covered, if_pos rfl]
    exact Step.after_of_ok success
  · rw [missing, if_neg Bool.false_ne_true]
    exact (fillStep_atomic files).after_of_error failed

end Attempt

/-! Filling looks at the places of occurrences only, which it leaves as they are. -/

/-- Lines that are filled in leave the places as they were. -/
lemma map_place_filledFrom (c : Clone) (files : Snapshot) :
    (c.filledFrom files).occurrences.map Occurrence.place = c.occurrences.map Occurrence.place := by
  rw [filledFrom, List.map_map]
  rfl

/-- Lines that are filled in make no difference to which snapshots have all files. -/
lemma isCovered_filledFrom (c : Clone) (files files' : Snapshot) :
    (c.filledFrom files).isCovered files' = c.isCovered files' := by
  rw [isCovered, filledFrom, List.all_map]
  rfl

/-- Lines that are filled in replace those that were filled in before. -/
lemma filledFrom_filledFrom (c : Clone) (files files' : Snapshot) :
    (c.filledFrom files).filledFrom files' = c.filledFrom files' := by
  simp only [filledFrom, List.map_map]
  rfl

/-- A run of attempts leaves the clone as it was, or as its last success left it. -/
lemma afterFills_cases (c : Clone) (run : List Snapshot) :
    ((∀ files ∈ run, c.isCovered files = false) ∧ c.afterFills run = c) ∨
    ∃ earlier files later, run = earlier ++ files :: later ∧ c.isCovered files ∧
      (∀ files' ∈ later, c.isCovered files' = false) ∧ c.afterFills run = c.filledFrom files := by
  induction run using List.reverseRecOn with
  | nil => exact .inl ⟨nofun, rfl⟩
  | append_singleton run files ih =>
    have step : c.afterFills (run ++ [files]) = (c.afterFills run).afterFill files := by
      rw [afterFills, List.foldl_append]
      rfl
    rw [step, afterFill_eq]
    cases covered : c.isCovered files with
    | true =>
      refine .inr ⟨run, files, [], rfl, covered, nofun, ?_⟩
      rcases ih with ⟨-, e⟩ | ⟨earlier, last, later, -, -, -, e⟩
      · rw [e, covered, if_pos rfl]
      · rw [e, isCovered_filledFrom, covered, if_pos rfl, filledFrom_filledFrom]
    | false =>
      rcases ih with ⟨none_covered, e⟩ | ⟨earlier, last, later, rfl, success, none_covered, e⟩
      · refine .inl ⟨?_, ?_⟩
        · rw [List.forall_mem_append, List.forall_mem_singleton]
          exact ⟨none_covered, covered⟩
        · rw [e, covered, if_neg Bool.false_ne_true]
      · refine .inr ⟨earlier, last, later ++ [files], ?_, success, ?_, ?_⟩
        · rw [List.append_assoc, List.cons_append]
        · rw [List.forall_mem_append, List.forall_mem_singleton]
          exact ⟨none_covered, covered⟩
        · rw [e, isCovered_filledFrom, covered, if_neg Bool.false_ne_true]

/-- Which snapshots have all files stays the same in any run of attempts. -/
lemma isCovered_afterFills (c : Clone) (run : List Snapshot) :
    (c.afterFills run).isCovered = c.isCovered := by
  funext files
  rcases afterFills_cases c run with ⟨-, e⟩ | ⟨-, last, -, -, -, -, e⟩
  · rw [e]
  · rw [e, isCovered_filledFrom]

/-- The lines of an occurrence are those of its range in its file, moved to the margin. -/
lemma excerpt?_of_covered {c : Clone} {files : Snapshot} (h : c.isCovered files) {o : Occurrence}
    (ho : o ∈ c.occurrences) :
    ∃ lines, files.get? o.filename = some lines ∧
      o.excerpt? files = some (Text.dedent (Text.joinPieces
        (linesBetween lines o.start.line.toNat o.stop.line.toNat))) := by
  obtain ⟨lines, content⟩ := Option.isSome_iff_exists.mp (List.all_eq_true.mp h o ho)
  refine ⟨lines, content, ?_⟩
  rw [Occurrence.excerpt?, content, Option.map_some, excerpt_eq]

/-- Whatever run of attempts a clone goes through, its hash and the places of its occurrences stay.
Either all attempts fail and the clone is as it was, or the lines of every occurrence are cut from the
snapshot of the last attempt that succeeds. An attempt fails exactly when the file of some occurrence
is not in its snapshot; it names the file of the first such occurrence, and changes nothing. -/
theorem afterFills_last_success (c : Clone) (run : List Snapshot) :
    (c.afterFills run).hash = c.hash ∧
    (c.afterFills run).occurrences.map Occurrence.place = c.occurrences.map Occurrence.place ∧
    (((∀ earlier files later, run = earlier ++ files :: later →
          ((c.afterFills earlier).fill files).isOk = false) ∧
        c.afterFills run = c) ∨
      ∃ earlier files later, run = earlier ++ files :: later ∧
        ((c.afterFills earlier).fill files).isOk ∧
        (∀ earlier' files' later', later = earlier' ++ files' :: later' →
          ((c.afterFills (earlier ++ files :: earlier')).fill files').isOk = false) ∧
        List.Forall₂ (fun o o' => ∃ lines, files.get? o.filename = some lines ∧
            o'.lines = some (Text.dedent (Text.joinPieces
              (linesBetween lines o.start.line.toNat o.stop.line.toNat))))
          c.occurrences (c.afterFills run).occurrences) ∧
    ∀ files,
      ((c.fill files).isOk = false ↔ ∃ o ∈ c.occurrences, files.contains o.filename = false) ∧
      (∀ e, c.fill files = .error e ↔
        ∃ earlier o later, c.occurrences = earlier ++ o :: later ∧
          (∀ p ∈ earlier, files.contains p.filename) ∧ files.contains o.filename = false ∧
          e = .unknownFile o.filename) ∧
      ((c.fill files).isOk = false → c.afterFill files = c) := by
  refine ⟨?_, ?_, ?_, ?_⟩
  · rcases afterFills_cases c run with ⟨-, e⟩ | ⟨-, files, -, -, -, -, e⟩ <;> rw [e]
    rfl
  · rcases afterFills_cases c run with ⟨-, e⟩ | ⟨-, files, -, -, -, -, e⟩ <;> rw [e]
    exact map_place_filledFrom c files
  · rcases afterFills_cases c run with
      ⟨failures, e⟩ | ⟨earlier, files, later, parts, success, failures, e⟩
    · refine .inl ⟨?_, e⟩
      rintro earlier files later rfl
      rw [isOk_fill, isCovered_afterFills]
      exact failures files (List.mem_append_right _ List.mem_cons_self)
    · refine .inr ⟨earlier, files, later, parts, ?_, ?_, ?_⟩
      · rw [isOk_fill, isCovered_afterFills]
        exact success
      · rintro earlier' files' later' rfl
        rw [isOk_fill, isCovered_afterFills]
        exact failures files' (List.mem_append_right _ List.mem_cons_self)
      · rw [e, filledFrom, List.forall₂_map_right_iff, List.forall₂_same]
        intro o ho
        exact excerpt?_of_covered success ho
  · intro files
    refine ⟨?_, fun e => fill_eq_error_iff, ?_⟩
    · rw [isOk_fill, isCovered, List.all_eq_false]
      simp only [Bool.not_eq_true]
    · intro failed
      rw [isOk_fill] at failed
      rw [afterFill_eq, failed, if_neg Bool.false_ne_true]

end Clone

end CodeClones
