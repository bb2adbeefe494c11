import CodeClones.Clone.Basic
import CodeClones.Proofs.Step
import Mathlib.Tactic.SplitIfs

/-!
# Building and filling clones

When building a clone and filling it succeed, with what, and which failure is reported otherwise:
`occurrencesFrom_eq` and `fill_eq` give both functions as one search for the first obstacle, and
`excerpt_eq` says which lines an excerpt is made of. Filling is one step with two phases, the first of
which changes nothing and the second of which does not fail; so it is atomic (`fillStep_atomic`).
-/

namespace CodeClones

/-- The lines whose numbers, counted from one, are in a range. -/
def linesBetween (lines : List String) (first last : Nat) : List String :=
  ((lines.zipIdx 1).filter fun (_, number) => first ≤ number ∧ number ≤ last).map Prod.fst

/-- The entries whose numbers are in a range stand side by side. -/
lemma map_fst_filter_zipIdx (lines : List String) (first last start : Nat) :
    ((lines.zipIdx start).filter fun (_, number) => first ≤ number ∧ number ≤ last).map Prod.fst =
      (lines.take (last + 1 - start)).drop (first - start) := by
  induction lines generalizing start with
  | nil => simp
  | cons line lines ih =>
    rw [List.zipIdx_cons]
    -- the first line is in the range, before it, or behind it with all that follow
    by_cases hlast : start ≤ last
    · have e : last + 1 - start = (last + 1 - (start + 1)) + 1 := by omega
      by_cases hfirst : first ≤ start
      · have e' : first - start = 0 := by omega
        have e'' : first - (start + 1) = 0 := by omega
        rw [List.filter_cons_of_pos (by simp [hfirst, hlast]), List.map_cons, ih, e, e', e'',
          List.take_succ_cons, List.drop_zero, List.drop_zero]
      · have e' : first - start = (first - (start + 1)) + 1 := by omega
        rw [List.filter_cons_of_neg (by simp [hfirst]), ih, e, e', List.take_succ_cons,
          List.drop_succ_cons]
    · have e : last + 1 - start = 0 := by omega
      have e' : last + 1 - (start + 1) = 0 := by omega
      rw [List.filter_cons_of_neg (by simp [hlast]), ih, e, e', List.take_zero, List.take_zero]
      simp

/-- An excerpt is made of the lines from one position's line to the other's. -/
theorem excerpt_eq (lines : List String) (start stop : Position) :
    excerpt lines start stop =
      Text.dedent (Text.joinPieces (linesBetween lines start.line.toNat stop.line.toNat)) := by
  rw [linesBetween, map_fst_filter_zipIdx, excerpt, Nat.add_sub_cancel]

namespace Occurrence

/-- A group with a first node has an occurrence, in the file of that node. -/
lemma ofGroup?_cons (slack : UInt32) (first : Node) (rest : List Node) :
    ofGroup? slack (first :: rest) =
      some ⟨first.span.filename, Bounds.start first rest, Bounds.stop slack first rest, none⟩ :=
  rfl

/-- Groups without an empty one among them have one occurrence each. -/
lemma map_some_filterMap_ofGroup? (slack : UInt32) {groups : List (List Node)}
    (full : ∀ group ∈ groups, group ≠ []) :
    (groups.filterMap (ofGroup? slack)).map some = groups.map (ofGroup? slack) := by
  induction groups with
  | nil => rfl
  | cons group groups ih =>
    cases group with
    | nil => exact absurd rfl (full [] List.mem_cons_self)
    | cons first rest =>
      rw [List.filterMap_cons_some (ofGroup?_cons slack first rest), List.map_cons, List.map_cons,
        ih fun g hg => full g (List.mem_cons_of_mem _ hg), ofGroup?_cons]

/-- The occurrence of a group has the same place in the list as the group. -/
lemma getElem?_filterMap_ofGroup? (slack : UInt32) {groups : List (List Node)}
    (full : ∀ group ∈ groups, group ≠ []) {i : Nat} {group : List Node}
    (h : groups[i]? = some group) :
    (groups.filterMap (ofGroup? slack))[i]? = ofGroup? slack group := by
  have e : (groups.filterMap (ofGroup? slack))[i]?.map some = some (ofGroup? slack group) := by
    rw [← List.getElem?_map, map_some_filterMap_ofGroup? slack full, List.getElem?_map, h,
      Option.map_some]
  obtain ⟨o, here, ho⟩ := Option.map_eq_some_iff.mp e
  exact here.trans ho

/-- The file of an occurrence is the file of one of its nodes. -/
lemma filename_of_ofGroup? {slack : UInt32} {group : List Node} {o : Occurrence}
    (h : ofGroup? slack group = some o) : ∃ n ∈ group, o.filename = n.span.filename := by
  cases group with
  | nil => cases h
  | cons first rest =>
    rw [ofGroup?_cons] at h
    cases h
    exact ⟨first, List.mem_cons_self, rfl⟩

end Occurrence

namespace Clone

/-- The groups of a clone are gone through up to the first that is empty. -/
lemma occurrencesFrom_eq (slack : UInt32) (index : Nat) (groups : List (List Node)) :
    occurrencesFrom slack index groups =
      match groups.findIdx? List.isEmpty with
      | some i => .error (.emptyGroup (index + i))
      | none => .ok (groups.filterMap (Occurrence.ofGroup? slack)) := by
  induction groups generalizing index with
  | nil => rfl
  | cons group groups ih =>
    cases group with
    | nil => rfl
    | cons first rest =>
      rw [occurrencesFrom, Occurrence.ofGroup?_cons, ih, List.findIdx?_cons,
        if_neg (by simp), List.filterMap_cons_some (Occurrence.ofGroup?_cons slack first rest)]
      cases groups.findIdx? List.isEmpty with
      | none => rfl
      | some i =>
        show Except.error (CloneError.emptyGroup (index + 1 + i)) = _
        rw [Nat.add_assoc, Nat.add_comm 1 i]
        rfl

/-- Groups that all have nodes make a clone. -/
lemma ofGroups_of_full {slack : UInt32} {groups : List (List Node)} (some_group : groups ≠ [])
    (full : groups.findIdx? List.isEmpty = none) :
    ofGroups slack groups =
      .ok ⟨fingerprint groups, groups.filterMap (Occurrence.ofGroup? slack)⟩ := by
  rw [ofGroups, if_neg (by simpa using some_group), occurrencesFrom_eq, full]
  rfl

/-- The texts of occurrences are cut unless some file is not known, which the first that lies in such a
file reports. -/
lemma mapM_excerptOrError_eq (files : Snapshot) (occurrences : List Occurrence) :
    (∃ texts, occurrences.mapM (fun o => o.excerptOrError files) = .ok texts ∧
      texts.map some = occurrences.map (fun o => o.excerpt? files) ∧
      occurrences.find? (fun o => !files.contains o.filename) = none) ∨
    ∃ o, occurrences.mapM (fun o => o.excerptOrError files) = .error (.unknownFile o.filename) ∧
      occurrences.find? (fun o => !files.contains o.filename) = some o := by
  induction occurrences with
  | nil => exact .inl ⟨[], rfl, rfl, rfl⟩
  | cons o rest ih =>
    rw [List.mapM_cons, Occurrence.excerptOrError, List.map_cons, Occurrence.excerpt?]
    cases h : files.get? o.filename with
    | none =>
      have missing : files.contains o.filename = false := by rw [Snapshot.contains, h]; rfl
      refine .inr ⟨o, rfl, ?_⟩
      rw [List.find?_cons_of_pos (by simp [missing])]
    | some lines =>
      have known : files.contains o.filename = true := by rw [Snapshot.contains, h]; rfl
      rw [List.find?_cons_of_neg (by simp [known])]
      rcases ih with ⟨texts, cut, same, found⟩ | ⟨other, failed, found⟩
      · refine .inl ⟨excerpt lines o.start o.stop :: texts, ?_, ?_, found⟩
        · rw [cut]
          rfl
        · rw [List.map_cons, same]
          rfl
      · refine .inr ⟨other, ?_, found⟩
        rw [failed]
        rfl

/-- One text for each occurrence leaves no occurrence without its text. -/
lemma writeTexts_eq_map {files : Snapshot} {texts : List String} {occurrences : List Occurrence}
    (same : texts.map some = occurrences.map fun o => o.excerpt? files) :
    Occurrence.writeTexts texts occurrences =
      occurrences.map fun o => { o with lines := o.excerpt? files } := by
  induction occurrences generalizing texts with
  | nil =>
    obtain rfl := List.map_eq_nil_iff.mp same
    rfl
  | cons o rest ih =>
    cases texts with
    | nil => cases same
    | cons text texts =>
      obtain ⟨here, others⟩ := List.cons_eq_cons.mp same
      rw [Occurrence.writeTexts, ih others, List.map_cons, here]

/-- All texts are cut before the first is written, so an attempt to fill a clone that fails changes
nothing. -/
lemma fillStep_atomic (files : Snapshot) : (fillStep files).Atomic :=
  Step.reads_get.bind_atomic fun _ =>
    (Step.reads_ofExcept _).bind_atomic fun _ => (Step.succeeds_modify _).atomic

/-- A clone is filled unless some file is not known, which the first occurrence that lies in such a file
reports. -/
lemma fill_eq (files : Snapshot) (c : Clone) :
    c.fill files =
      match c.occurrences.find? (fun o => !files.contains o.filename) with
      | some o => .error (.unknownFile o.filename)
      | none => .ok
          { c with occurrences := c.occurrences.map fun o => { o with lines := o.excerpt? files } } := by
  refine (Step.outcome_read (fun c : Clone => c.occurrences.mapM fun o => o.excerptOrError files)
    _ c).trans ?_
  rcases mapM_excerptOrError_eq files c.occurrences with ⟨texts, cut, same, found⟩ | ⟨o, failed, found⟩
  · rw [cut, found, ← writeTexts_eq_map same]
    rfl
  · rw [failed, found]
    rfl

end Clone

end CodeClones
