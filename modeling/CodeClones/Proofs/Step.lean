import CodeClones.Step
import Mathlib.Tactic.Lemma

/-!
# Steps that fail as a whole

A step is atomic when a failure leaves the state as it was. That is so when all that can fail comes before
the first change (`Reads.bind_atomic`): a step that only reads (`Reads`), and then one that does not fail
(`Succeeds`).
-/

namespace CodeClones.Step

variable {σ ε α β : Type} {step : Step σ ε α} {next : α → Step σ ε β} {s : σ}

/-- A step that leaves every state as it is, whether it fails or not. -/
def Reads (step : Step σ ε α) : Prop :=
  ∀ s, (∃ x, step.run s = .ok x s) ∨ ∃ e, step.run s = .error e s

/-- A step that never fails. -/
def Succeeds (step : Step σ ε α) : Prop :=
  ∀ s, ∃ x s', step.run s = .ok x s'

/-- A step that changes nothing when it fails. -/
def Atomic (step : Step σ ε α) : Prop :=
  ∀ s e s', step.run s = .error e s' → s' = s

/-- Looking at the state leaves it as it is. -/
lemma reads_get : Reads (get : Step σ ε σ) :=
  fun s => .inl ⟨s, rfl⟩

/-- Passing on a failure leaves the state as it is. -/
lemma reads_ofExcept (x : Except ε α) : Reads (ofExcept x : Step σ ε α) := by
  intro s
  cases x with
  | ok x => exact .inl ⟨x, rfl⟩
  | error e => exact .inr ⟨e, rfl⟩

/-- A change that needs nothing does not fail. -/
lemma succeeds_modify (f : σ → σ) : Succeeds (modify f : Step σ ε Unit) :=
  fun s => ⟨(), f s, rfl⟩

/-- Two steps one after the other do not fail when neither does. -/
lemma Succeeds.bind (first : Succeeds step) (second : ∀ x, Succeeds (next x)) :
    Succeeds (step >>= next) := by
  intro s
  obtain ⟨x, s', run⟩ := first s
  rw [EStateM.run_bind, run]
  exact second x s'

/-- A step that does not fail is atomic. -/
lemma Succeeds.atomic (h : Succeeds step) : Atomic step := by
  intro s e s' failed
  obtain ⟨x, s'', run⟩ := h s
  cases run.symm.trans failed

/-- What is read before an atomic step makes no difference to its being atomic. -/
lemma Reads.bind_atomic (first : Reads step) (second : ∀ x, Atomic (next x)) :
    Atomic (step >>= next) := by
  intro s e s' failed
  rw [EStateM.run_bind] at failed
  rcases first s with ⟨x, run⟩ | ⟨e', run⟩
  · rw [run] at failed
    exact second x s e s' failed
  · rw [run] at failed
    cases failed
    rfl

/-- A step that first reads something off the state comes to what its rest comes to, or fails with the
reading. -/
lemma outcome_read (read : σ → Except ε α) (rest : α → Step σ ε Unit) (s : σ) :
    outcome (get >>= fun s => ofExcept (read s) >>= rest) s =
      (read s).bind fun x => (rest x).outcome s := by
  rw [outcome, EStateM.run_bind, EStateM.run_get]
  dsimp only
  rw [EStateM.run_bind]
  cases read s with
  | ok x => rfl
  | error e => rfl

section Outcome

variable {step : Step σ ε Unit} {s' : σ} {e : ε}

/-- The state behind an atomic step that has failed is the state in front of it. -/
lemma Atomic.after_of_error (atomic : Atomic step) (failed : step.outcome s = .error e) :
    step.after s = s := by
  rw [outcome] at failed
  rw [after]
  cases run : step.run s with
  | ok x behind =>
    rw [run] at failed
    cases failed
  | error e' behind => exact atomic s e' behind run

/-- The state behind a step that has succeeded is its outcome. -/
lemma after_of_ok (success : step.outcome s = .ok s') : step.after s = s' := by
  rw [outcome] at success
  rw [after]
  cases run : step.run s with
  | ok x behind =>
    rw [run] at success
    cases success
    rfl
  | error e' behind =>
    rw [run] at success
    cases success

end Outcome

end CodeClones.Step
