/-!
# Steps

A step works on a state and may fail on its way. A failure undoes nothing: what has been changed by then
stays changed. So whether a step that fails leaves the state as it was depends on where it fails.
-/

namespace CodeClones

/-- A program on a state that may fail. -/
abbrev Step (σ ε α : Type) :=
  EStateM ε σ α

namespace Step

variable {σ ε : Type}

/-- The state behind a step, whether it has failed or not. -/
def after (step : Step σ ε Unit) (s : σ) : σ :=
  match step.run s with
  | .ok () s' => s'
  | .error _ s' => s'

/-- The state behind a step that succeeds, or why it fails. -/
def outcome (step : Step σ ε Unit) (s : σ) : Except ε σ :=
  match step.run s with
  | .ok () s' => .ok s'
  | .error e _ => .error e

end Step

end CodeClones
