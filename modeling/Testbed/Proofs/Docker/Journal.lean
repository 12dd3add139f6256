import Testbed.Docker

/-!
# Journals of programs that are run

This file supplies surroundings that keep a journal: whenever a program is run in them, they
note which it was and what became of it.  What is done in such surroundings is also what is done
in those without a journal, as long as only programs, files and sessions are used.

An action issues a list of runs if it adds them, in their order, to the journal.
-/

namespace Testbed

/-! ## Runs of programs -/

/-- A program that was run, with what it left behind or why it could not be started. -/
structure Invocation where
  line : CommandLine
  outcome : Except String Finished

namespace Invocation

/-- Whether the program was started and ended with success. -/
def succeeded (invocation : Invocation) : Bool :=
  match invocation.outcome with
  | .error _ => false
  | .ok finished => finished.status.success

/-- What the run gives if the program has to succeed. -/
def verdict (invocation : Invocation) : Result String :=
  match invocation.outcome with
  | .error reason => .error (.commandFailed invocation.line.render reason)
  | .ok finished => invocation.line.accept finished

theorem isOk_verdict (invocation : Invocation) :
    invocation.verdict.isOk = invocation.succeeded := by
  rw [verdict, succeeded]
  cases invocation.outcome with
  | error reason => rfl
  | ok finished =>
      dsimp only
      rw [CommandLine.accept]
      cases finished.status.success <;> rfl

theorem succeeded_of_verdict {invocation : Invocation} {text : String}
    (given : invocation.verdict = .ok text) : invocation.succeeded = true := by
  rw [← isOk_verdict, given]
  rfl

theorem not_succeeded_of_verdict {invocation : Invocation} {error : Error}
    (failed : invocation.verdict = .error error) : invocation.succeeded = false := by
  rw [← isOk_verdict, failed]
  rfl

end Invocation

/-! ## Surroundings with a journal -/

/-- Surroundings with a journal of the programs that were run in them. -/
structure Journaled (σ : Type) where
  world : σ
  /-- The runs of programs, in their order. -/
  journal : List Invocation := []

namespace Journaled

variable {σ α β : Type}

instance [Runs σ] : Runs (Journaled σ) where
  run line state :=
    let (outcome, world) := Runs.run line state.world
    (outcome, { world, journal := state.journal ++ [{ line, outcome }] })

/-- A run is done in the world and noted. -/
theorem run_eq [Runs σ] (line : CommandLine) (state : Journaled σ) :
    Runs.run line state =
      ((Runs.run line state.world).1,
        { world := (Runs.run line state.world).2
          journal := state.journal ++ [⟨line, (Runs.run line state.world).1⟩] }) :=
  rfl

/-- Perform an action of the surroundings, of which nothing is noted. -/
def unnoted (action : Action σ α) : Action (Journaled σ) α :=
  .ofFunction fun state =>
    let (result, world) := action.perform state.world
    (result, { state with world })

/-- A session in which nothing is noted. -/
def unnotedSession (session : Session σ) : Session (Journaled σ) where
  run command options := unnoted (session.run command options)
  close := unnoted session.close

instance [Docker.Surroundings σ] : Docker.Surroundings (Journaled σ) where
  requireFile path := unnoted (Docker.Surroundings.requireFile path)
  makeParent path := unnoted (Docker.Surroundings.makeParent path)
  openSession endpoint options := do
    let session ← unnoted (Docker.Surroundings.openSession endpoint options)
    pure (unnotedSession session)

end Journaled

namespace Action

theorem perform_discard {σ α : Type} (action : Action σ α) (state : σ) :
    (discard action).perform state =
      ((action.perform state).1.map fun _ => (), (action.perform state).2) := by
  have as_bind : discard action = action >>= fun _ => pure () := rfl
  rw [as_bind, perform_bind]
  rcases action.perform state with ⟨_ | _, _⟩ <;> rfl

/-! ## What actions issue -/

variable {σ α β : Type}

/-- In some surroundings an action issues runs of programs, gives a result and leaves the
surroundings in some way. -/
structure Issues (action : Action (Journaled σ) α) (before : Journaled σ)
    (issued : List Invocation) (result : Result α) (after : Journaled σ) : Prop where
  performed : action.perform before = (result, after)
  noted : after.journal = before.journal ++ issued

namespace Issues

variable {action : Action (Journaled σ) α} {next : α → Action (Journaled σ) β}
  {before middle after : Journaled σ} {issued more : List Invocation}

theorem give (result : Result α) (before : Journaled σ) :
    (Action.give result).Issues before [] result before :=
  ⟨rfl, (List.append_nil _).symm⟩

theorem pure (value : α) (before : Journaled σ) :
    (Pure.pure value : Action (Journaled σ) α).Issues before [] (.ok value) before :=
  give (.ok value) before

theorem throw (error : Error) (before : Journaled σ) :
    (MonadExcept.throw error : Action (Journaled σ) α).Issues before [] (.error error) before :=
  give (.error error) before

/-- What follows an action issues its runs after those of the action. -/
theorem bind {value : α} {result : Result β}
    (first : action.Issues before issued (.ok value) middle)
    (rest : (next value).Issues middle more result after) :
    (action >>= next).Issues before (issued ++ more) result after := by
  constructor
  · rw [perform_bind, first.performed]
    exact rest.performed
  · rw [rest.noted, first.noted, List.append_assoc]

theorem bind_error {error : Error} (failed : action.Issues before issued (.error error) after) :
    (action >>= next).Issues before issued (.error error) after := by
  constructor
  · rw [perform_bind, failed.performed]
  · exact failed.noted

/-- What follows an action may only look at what it gave. -/
theorem bind_quiet {value : α} (first : action.Issues before issued (.ok value) after)
    (quiet : ∃ result, (next value).Issues after [] result after) :
    ∃ result, (action >>= next).Issues before issued result after := by
  obtain ⟨result, rest⟩ := quiet
  have joined := first.bind rest
  rw [List.append_nil] at joined
  exact ⟨result, joined⟩

theorem attempt {result : Result α} (first : action.Issues before issued result after) :
    action.attempt.Issues before issued (.ok result) after := by
  constructor
  · rw [Action.attempt, perform_ofFunction, first.performed]
  · exact first.noted

theorem mapFailure {result : Result α} (replace : Error → Error)
    (first : action.Issues before issued result after) :
    (action.mapFailure replace).Issues before issued (result.mapError replace) after := by
  constructor
  · rw [Action.mapFailure, perform_ofFunction, first.performed]
  · exact first.noted

theorem discard {result : Result α} (first : action.Issues before issued result after) :
    (Functor.discard action).Issues before issued (result.map fun _ => ()) after := by
  constructor
  · rw [perform_discard, first.performed]
  · exact first.noted

end Issues

/-- A program is run once, and what becomes of it is in the journal. -/
theorem exists_issues_output [Runs σ] (line : CommandLine) (before : Journaled σ) :
    ∃ outcome after, line.output.Issues before [⟨line, outcome⟩]
      (outcome.mapError fun reason => .commandFailed line.render reason) after :=
  ⟨_, _, rfl, rfl⟩

/-- A program that has to succeed is run once, and gives the verdict on its run. -/
theorem exists_issues_checked [Runs σ] (line : CommandLine) (before : Journaled σ) :
    ∃ invocation after, invocation.line = line ∧
      line.checked.Issues before [invocation] invocation.verdict after := by
  obtain ⟨outcome, after, run⟩ := exists_issues_output line before
  refine ⟨⟨line, outcome⟩, after, rfl, ?_⟩
  cases outcome with
  | error reason => exact run.bind_error
  | ok finished => exact run.bind (.give (line.accept finished) after)

/-! ## Actions without a journal -/

/-- Two results are the same failure, or values that belong together. -/
inductive Corresponds (related : α → β → Prop) : Result α → Result β → Prop where
  | ok {noted : α} {plain : β} (values : related noted plain) :
      Corresponds related (.ok noted) (.ok plain)
  | error (error : Error) : Corresponds related (.error error) (.error error)

theorem Corresponds.refl (result : Result α) : Corresponds Eq result result := by
  cases result with
  | ok value => exact .ok rfl
  | error error => exact .error error

/-- Without a journal an action gives what belongs together with its result and leaves the same
world. -/
def Mirrors (related : α → β → Prop) (noted : Action (Journaled σ) α) (plain : Action σ β) : Prop :=
  ∀ state, Corresponds related (noted.perform state).1 (plain.perform state.world).1 ∧
    (noted.perform state).2.world = (plain.perform state.world).2

namespace Mirrors

variable {γ δ : Type} {related : α → β → Prop} {next_related : γ → δ → Prop}
  {noted : Action (Journaled σ) α} {plain : Action σ β}

theorem give {first : Result α} {second : Result β} (results : Corresponds related first second) :
    Mirrors (σ := σ) related (Action.give first) (Action.give second) :=
  fun _ => ⟨results, rfl⟩

theorem pure {first : α} {second : β} (values : related first second) :
    Mirrors (σ := σ) related (Pure.pure first) (Pure.pure second) :=
  give (.ok values)

theorem throw (error : Error) :
    Mirrors (σ := σ) related (MonadExcept.throw error) (MonadExcept.throw error) :=
  give (.error error)

theorem bind {noted_next : α → Action (Journaled σ) γ} {plain_next : β → Action σ δ}
    (first : Mirrors related noted plain)
    (rest : ∀ value other, related value other →
      Mirrors next_related (noted_next value) (plain_next other)) :
    Mirrors next_related (noted >>= noted_next) (plain >>= plain_next) := by
  intro state
  have outcomes := first state
  rw [perform_bind, perform_bind]
  revert outcomes
  rcases noted.perform state with ⟨result, middle⟩
  rcases plain.perform state.world with ⟨other, world⟩
  rintro ⟨results, rfl⟩
  cases results with
  | ok values => exact rest _ _ values middle
  | error error => exact ⟨.error error, rfl⟩

theorem attempt (first : Mirrors related noted plain) :
    Mirrors (Corresponds related) noted.attempt plain.attempt :=
  fun state => ⟨.ok (first state).1, (first state).2⟩

theorem mapFailure (replace : Error → Error) (first : Mirrors related noted plain) :
    Mirrors related (noted.mapFailure replace) (plain.mapFailure replace) := by
  intro state
  have outcomes := first state
  rw [Action.mapFailure, Action.mapFailure, perform_ofFunction, perform_ofFunction]
  revert outcomes
  rcases noted.perform state with ⟨result, middle⟩
  rcases plain.perform state.world with ⟨other, world⟩
  rintro ⟨results, rfl⟩
  cases results with
  | ok values => exact ⟨.ok values, rfl⟩
  | error error => exact ⟨.error (replace error), rfl⟩

theorem discard (first : Mirrors related noted plain) :
    Mirrors Eq (Functor.discard noted) (Functor.discard plain) :=
  first.bind fun _ _ _ => .pure rfl

theorem output [Runs σ] (line : CommandLine) : Mirrors (σ := σ) Eq line.output line.output :=
  fun _ => ⟨.refl _, rfl⟩

theorem checked [Runs σ] (line : CommandLine) : Mirrors (σ := σ) Eq line.checked line.checked :=
  (output line).bind fun _ _ same => same ▸ .give (.refl _)

end Mirrors

end Action

end Testbed
