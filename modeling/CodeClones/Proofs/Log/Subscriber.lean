import CodeClones.Log.Subscriber
import Mathlib.Data.List.Forall2
import Mathlib.Tactic.Lemma

/-!
# The first valid request decides

A run is a list of requests to install a subscriber, in a program that has none from elsewhere. A request whose
filter cannot be read changes nothing (`answerAll_refused`), and once a subscriber has been installed no request
does (`answerAll_installed`). So the first request with a valid filter is the one that its own answer and all
later ones tell of: `answerAll_first_valid`.
-/

namespace CodeClones.Log.Installation

variable {φ : Type} {parse : String → Except FilterError φ}

/-- A request whose filter can be read. -/
def IsValid (parse : String → Except FilterError φ) (config : Config) : Prop :=
  ∃ filter, parse config.logFilter = .ok filter

/-- The answer to a request whose filter cannot be read. It shows the filter. -/
def Refuses (parse : String → Except FilterError φ) (config : Config)
    (answer : Except InstallError Format) : Prop :=
  ∃ cause, parse config.logFilter = .error cause ∧ answer = .error (.filter config.logFilter cause)

/-- A program in which a subscriber has been installed. -/
def holding (filter : φ) (format : Format) : Installation φ :=
  { installed := some (filter, format) }

section Request

variable {state : Installation φ} {config : Config} {filter : φ} {format : Format}

/-- Once a subscriber is in place, every request is answered with its format and nothing changes. -/
lemma answer_of_installed (inPlace : state.installed = some (filter, format)) :
    state.answer parse config = (state, .ok format) := by
  rw [answer, inPlace]

/-- While no subscriber is in place, a request whose filter cannot be read is refused and nothing
changes. -/
lemma answer_of_refused (vacant : state.installed = none) (invalid : ¬ IsValid parse config) :
    ∃ answer, Refuses parse config answer ∧ state.answer parse config = (state, answer) := by
  cases read : parse config.logFilter with
  | error cause =>
    refine ⟨_, ⟨cause, read, rfl⟩, ?_⟩
    simp only [answer, vacant, read]
  | ok filter => exact absurd ⟨filter, read⟩ invalid

/-- The first request whose filter can be read installs it. -/
lemma answer_of_valid (valid : parse config.logFilter = .ok filter) :
    ({} : Installation φ).answer parse config =
      (holding filter config.logFormat, .ok config.logFormat) := by
  simp only [answer, valid]
  rfl

end Request

section Run

variable {state : Installation φ} {configs earlier : List Config} {first : Config} {filter : φ}
  {format : Format}

/-- A run goes on where the one before it ended. -/
lemma answerAll_append (parse : String → Except FilterError φ) (state : Installation φ)
    (earlier later : List Config) :
    let reached := state.answerAll parse earlier
    let final := reached.1.answerAll parse later
    state.answerAll parse (earlier ++ later) = (final.1, reached.2 ++ final.2) := by
  induction earlier generalizing state with
  | nil => rfl
  | cons config earlier ih => simp only [List.cons_append, answerAll, ih]

/-- Once a subscriber is in place, all requests are answered with its format and nothing changes. -/
lemma answerAll_installed (inPlace : state.installed = some (filter, format))
    (configs : List Config) :
    state.answerAll parse configs = (state, List.replicate configs.length (.ok format)) := by
  induction configs with
  | nil => rfl
  | cons config rest ih =>
    simp only [answerAll, answer_of_installed inPlace, ih]
    rfl

/-- While no subscriber is in place, requests none of whose filters can be read are refused, all of them,
and nothing changes. -/
lemma answerAll_refused (vacant : state.installed = none)
    (invalid : ∀ config ∈ configs, ¬ IsValid parse config) :
    ∃ refusals, List.Forall₂ (Refuses parse) configs refusals ∧
      state.answerAll parse configs = (state, refusals) := by
  induction configs with
  | nil => exact ⟨[], .nil, rfl⟩
  | cons config rest ih =>
    rw [List.forall_mem_cons] at invalid
    obtain ⟨answer, refuses, step⟩ := answer_of_refused vacant invalid.1
    obtain ⟨refusals, all, run⟩ := ih invalid.2
    refine ⟨answer :: refusals, .cons refuses all, ?_⟩
    simp only [answerAll, step, run]

/-- After any number of refused requests the program still has no subscriber. -/
lemma answerAll_take_refused (vacant : state.installed = none)
    (invalid : ∀ config ∈ configs, ¬ IsValid parse config) (count : Nat) :
    (state.answerAll parse (configs.take count)).1 = state := by
  obtain ⟨refusals, -, run⟩ := answerAll_refused vacant
    fun config mem => invalid config (List.mem_of_mem_take mem)
  rw [run]

/-- Behind requests that are refused, the first valid one is installed, and stays. -/
lemma answerAll_valid
    (invalid : ∀ config ∈ earlier, ¬ IsValid parse config)
    (valid : parse first.logFilter = .ok filter) :
    ∃ refusals, List.Forall₂ (Refuses parse) earlier refusals ∧ ∀ later,
      ({} : Installation φ).answerAll parse (earlier ++ first :: later) =
        (holding filter first.logFormat,
          refusals ++ List.replicate (later.length + 1) (.ok first.logFormat)) := by
  have vacant : ({} : Installation φ).installed = none := rfl
  obtain ⟨refusals, all, run⟩ := answerAll_refused vacant invalid
  refine ⟨refusals, all, ?_⟩
  intro later
  have after : (holding filter first.logFormat).answerAll parse later = _ :=
    answerAll_installed rfl later
  rw [answerAll_append, run]
  simp only [answerAll, answer_of_valid valid, after]
  rfl

/-- Either no request of a run is valid, or there is a first one that is. -/
lemma exists_first_valid (parse : String → Except FilterError φ) (configs : List Config) :
    (∀ config ∈ configs, ¬ IsValid parse config) ∨
    ∃ earlier first later filter, configs = earlier ++ first :: later ∧
      (∀ config ∈ earlier, ¬ IsValid parse config) ∧ parse first.logFilter = .ok filter := by
  induction configs with
  | nil => exact .inl nofun
  | cons config rest ih =>
    cases read : parse config.logFilter with
    | ok filter => exact .inr ⟨[], config, rest, filter, rfl, nofun, read⟩
    | error cause =>
      have here : ¬ IsValid parse config := by
        rintro ⟨filter, valid⟩
        cases read.symm.trans valid
      rcases ih with invalid | ⟨earlier, first, later, filter, rfl, invalid, valid⟩
      · exact .inl (List.forall_mem_cons.mpr ⟨here, invalid⟩)
      · exact .inr ⟨config :: earlier, first, later, filter, rfl,
          List.forall_mem_cons.mpr ⟨here, invalid⟩, valid⟩

end Run

/-- Requests come to a program without a subscriber. Either none of them is valid: then all are refused, and
nothing has been installed after any number of them. Or one of them is the first that is valid: then those in
front of it are refused and nothing has been installed after them, it is installed itself, and it and all
behind it, valid or not, are answered with its format while it stays in place. -/
theorem answerAll_first_valid (parse : String → Except FilterError φ) (configs : List Config) :
    let start : Installation φ := {}
    let answers := (start.answerAll parse configs).2
    let after count := (start.answerAll parse (configs.take count)).1
    ((∀ config ∈ configs, ¬ IsValid parse config) ∧
      List.Forall₂ (Refuses parse) configs answers ∧ ∀ count, after count = start) ∨
    ∃ earlier first later filter, configs = earlier ++ first :: later ∧
      (∀ config ∈ earlier, ¬ IsValid parse config) ∧ parse first.logFilter = .ok filter ∧
      (∃ refusals, List.Forall₂ (Refuses parse) earlier refusals ∧
        answers = refusals ++ List.replicate (later.length + 1) (.ok first.logFormat)) ∧
      ∀ count, after count =
        if count ≤ earlier.length then start
        else { installed := some (filter, first.logFormat) } := by
  intro start answers after
  have vacant : start.installed = none := rfl
  rcases exists_first_valid parse configs with
    invalid | ⟨earlier, first, later, filter, rfl, invalid, valid⟩
  · obtain ⟨refusals, all, run⟩ := answerAll_refused vacant invalid
    refine .inl ⟨invalid, ?_, answerAll_take_refused vacant invalid⟩
    rw [show answers = refusals from congrArg Prod.snd run]
    exact all
  · obtain ⟨refusals, all, run⟩ := answerAll_valid invalid valid
    refine .inr ⟨earlier, first, later, filter, rfl, invalid, valid, ?_, ?_⟩
    · exact ⟨refusals, all, congrArg Prod.snd (run later)⟩
    · intro count
      simp only [after]
      by_cases few : count ≤ earlier.length
      · rw [if_pos few, List.take_append_of_le_length few]
        exact answerAll_take_refused vacant invalid count
      · obtain ⟨more, rfl⟩ := Nat.exists_eq_add_of_lt (Nat.lt_of_not_le few)
        rw [if_neg few, Nat.add_assoc, List.take_length_add_append, List.take_succ_cons, run]
        rfl

example :
    let loudest : Config := { logFilter := "lib=loudest" }
    let compact : Config := { logFilter := "lib=debug", logFormat := .compact }
    (({} : Installation Filter).answerAll Filter.parse [loudest, compact, {}, loudest]).2 =
      [.error (.filter "lib=loudest" .unknownLevel), .ok .compact, .ok .compact, .ok .compact] :=
  rfl

end CodeClones.Log.Installation
