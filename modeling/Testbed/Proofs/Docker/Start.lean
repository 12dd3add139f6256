import Testbed.Proofs.Docker.Journal

/-!
# Courses of starting a container

This file supplies the courses that starting a container can take, whatever becomes of the
programs that it runs.  A course is a list of runs with a result.  The surroundings are asked for
a runtime, the command that comes before the container is run, and then the container; each of
these can be where it ends.
-/

namespace Testbed.Docker

/-! ## Kinds of runs -/

/-- The argument that tells the command lines of a construction apart. -/
def kind (line : CommandLine) : Option String :=
  line.arguments.head?

/-- The command line that asks for the settings of a container. -/
def Container.inspectLine (container : Container) : CommandLine :=
  container.line ["inspect", container.id]

section Kinds

variable (config : Config) (runtime : Runtime) (container : Container) (command : String)

@[simp]
theorem kind_versionLine : kind (versionLine runtime) = some "--version" :=
  rfl

@[simp]
theorem kind_bootstrapLine : kind (bootstrapLine command) = some "-c" :=
  rfl

@[simp]
theorem kind_runLine : kind (runLine config runtime) = some "run" :=
  rfl

@[simp]
theorem kind_inspectLine : kind container.inspectLine = some "inspect" :=
  rfl

@[simp]
theorem kind_stopLine : kind container.stopLine = some "stop" :=
  rfl

@[simp]
theorem kind_removeLine : kind container.removeLine = some "rm" :=
  rfl

end Kinds

/-- A run that asks for a runtime. -/
def Asks (invocation : Invocation) : Prop :=
  ∃ runtime, invocation.line = versionLine runtime

/-- A run of the command that comes before the container. -/
def Bootstraps (config : Config) (invocation : Invocation) : Prop :=
  ∃ command, config.bootstrap = some command ∧ invocation.line = bootstrapLine command

/-- A run that is to start the container. -/
def RunsContainer (config : Config) (invocation : Invocation) : Prop :=
  ∃ runtime, invocation.line = runLine config runtime

/-- A run that has started a container, whose identity it gives. -/
structure Starts (config : Config) (container : Container) (invocation : Invocation) : Prop where
  line : invocation.line = runLine config container.runtime
  identity : invocation.verdict = .ok container.id

section Runs

variable {config : Config} {container : Container} {invocation : Invocation}

theorem Asks.kind_eq (asks : Asks invocation) : kind invocation.line = some "--version" := by
  obtain ⟨runtime, line⟩ := asks
  rw [line, kind_versionLine]

theorem Bootstraps.kind_eq (bootstraps : Bootstraps config invocation) :
    kind invocation.line = some "-c" := by
  obtain ⟨command, -, line⟩ := bootstraps
  rw [line, kind_bootstrapLine]

theorem RunsContainer.kind_eq (runs : RunsContainer config invocation) :
    kind invocation.line = some "run" := by
  obtain ⟨runtime, line⟩ := runs
  rw [line, kind_runLine]

theorem Starts.runsContainer (starts : Starts config container invocation) :
    RunsContainer config invocation :=
  ⟨container.runtime, starts.line⟩

theorem Asks.not_bootstraps (asks : Asks invocation) : ¬ Bootstraps config invocation := by
  intro bootstraps
  have same := asks.kind_eq.symm.trans bootstraps.kind_eq
  exact absurd same (by decide)

end Runs

/-! ## Courses of starting -/

/-- The settings are valid, and the command that comes before the container, if there is one,
has been run and has not failed. -/
structure Cleared (config : Config) (issued : List Invocation) : Prop where
  valid : config.validate = .ok ()
  bootstrapped : ∀ command, config.bootstrap = some command →
    ∃ invocation ∈ issued, invocation.line = bootstrapLine command
  succeeded : ∀ invocation ∈ issued, Bootstraps config invocation → invocation.succeeded = true

/-- Runs that come before that of the container when there is nothing in its way. -/
structure Prepared (config : Config) (prior : List Invocation) : Prop
    extends Cleared config prior where
  kinds : ∀ invocation ∈ prior, Asks invocation ∨ Bootstraps config invocation

/-- How starting a container can go. -/
inductive StartCourse (config : Config) : List Invocation → Result Container → Prop where
  | invalid {fault : Error} (invalid : config.validate = .error fault) :
      StartCourse config [] (.error fault)
  | unprepared {prior : List Invocation} {error : Error}
      (kinds : ∀ invocation ∈ prior, Asks invocation ∨ Bootstraps config invocation) :
      StartCourse config prior (.error error)
  | notRun {prior : List Invocation} {last : Invocation} {error : Error}
      (prepared : Prepared config prior) (runs : RunsContainer config last)
      (failed : last.succeeded = false) : StartCourse config (prior ++ [last]) (.error error)
  | started {prior : List Invocation} {last : Invocation} {container : Container}
      (prepared : Prepared config prior) (starts : Starts config container last) :
      StartCourse config (prior ++ [last]) (.ok container)

section Preparation

variable {config : Config} {asked booted : List Invocation}

theorem kinds_append (all_ask : ∀ invocation ∈ asked, Asks invocation)
    (all_boot : ∀ invocation ∈ booted, Bootstraps config invocation) :
    ∀ invocation ∈ asked ++ booted, Asks invocation ∨ Bootstraps config invocation := by
  intro invocation member
  exact (List.mem_append.mp member).imp (all_ask invocation) (all_boot invocation)

/-- The surroundings are asked for a runtime, and the command before the container succeeds. -/
theorem Prepared.of_append (valid : config.validate = .ok ())
    (all_ask : ∀ invocation ∈ asked, Asks invocation)
    (all_boot : ∀ invocation ∈ booted, Bootstraps config invocation)
    (bootstrapped : ∀ command, config.bootstrap = some command →
      ∃ invocation ∈ booted, invocation.line = bootstrapLine command)
    (succeeded : ∀ invocation ∈ booted, invocation.succeeded = true) :
    Prepared config (asked ++ booted) := by
  refine ⟨⟨valid, ?_, ?_⟩, kinds_append all_ask all_boot⟩
  · intro command configured
    obtain ⟨invocation, member, line⟩ := bootstrapped command configured
    exact ⟨invocation, List.mem_append_right asked member, line⟩
  · intro invocation member bootstraps
    rcases List.mem_append.mp member with asking | booting
    · exact absurd bootstraps (all_ask invocation asking).not_bootstraps
    · exact succeeded invocation booting

end Preparation

section Courses

variable {σ : Type} [Surroundings σ]

theorem exists_answers (runtime : Runtime) (before : Journaled σ) :
    ∃ answer invocation after, answers runtime before = (answer, after) ∧
      invocation.line = versionLine runtime ∧ after.journal = before.journal ++ [invocation] := by
  rw [answers, Journaled.run_eq]
  cases (Runs.run (versionLine runtime) before.world).1 with
  | error reason => exact ⟨false, ⟨_, .error reason⟩, _, rfl, rfl, rfl⟩
  | ok finished => exact ⟨_, ⟨_, .ok finished⟩, _, rfl, rfl, rfl⟩

theorem exists_firstAnswering (runtimes : List Runtime) (before : Journaled σ) :
    ∃ answer asked after, firstAnswering runtimes before = (answer, after) ∧
      (∀ invocation ∈ asked, Asks invocation) ∧ after.journal = before.journal ++ asked := by
  induction runtimes generalizing before with
  | nil => exact ⟨none, [], before, rfl, by simp, (List.append_nil _).symm⟩
  | cons runtime rest ih =>
      obtain ⟨answer, invocation, middle, asks, line, noted⟩ := exists_answers runtime before
      rw [firstAnswering, asks]
      cases answer with
      | true =>
          refine ⟨some runtime, [invocation], middle, rfl, ?_, noted⟩
          simpa using ⟨runtime, line⟩
      | false =>
          obtain ⟨answer, asked, after, found, all_ask, more⟩ := ih middle
          refine ⟨answer, invocation :: asked, after, found, ?_, ?_⟩
          · exact List.forall_mem_cons.mpr ⟨⟨runtime, line⟩, all_ask⟩
          · rw [more, noted, List.append_assoc, List.singleton_append]

theorem exists_issues_chooseRuntime (config : Config) (before : Journaled σ) :
    ∃ asked result after, (chooseRuntime config).Issues before asked result after ∧
      ∀ invocation ∈ asked, Asks invocation := by
  rw [chooseRuntime]
  cases config.runtime with
  | some runtime => exact ⟨[], .ok runtime, before, .pure runtime before, by simp⟩
  | none =>
      obtain ⟨answer, asked, after, found, all_ask, noted⟩ :=
        exists_firstAnswering [.docker, .podman] before
      have detects : (detect (σ := Journaled σ)).Issues before asked (.ok answer) after := by
        refine ⟨?_, noted⟩
        rw [detect, Action.perform_ofFunction, found]
      cases answer with
      | some runtime =>
          exact ⟨asked ++ [], _, after, detects.bind (.pure runtime after), by simpa using all_ask⟩
      | none =>
          exact ⟨asked ++ [], _, after, detects.bind (.throw _ after), by simpa using all_ask⟩

theorem exists_issues_runBootstrap (config : Config) (before : Journaled σ) :
    ∃ issued result after, (runBootstrap config).Issues before issued result after ∧
      (∀ invocation ∈ issued, Bootstraps config invocation) ∧
      (result = .ok () → (∀ invocation ∈ issued, invocation.succeeded = true) ∧
        ∀ command, config.bootstrap = some command →
          ∃ invocation ∈ issued, invocation.line = bootstrapLine command) := by
  rw [runBootstrap]
  cases configured : config.bootstrap with
  | none => exact ⟨[], .ok (), before, .pure () before, by simp, by simp⟩
  | some command =>
      obtain ⟨invocation, after, line, run⟩ :=
        Action.exists_issues_checked (bootstrapLine command) before
      refine ⟨[invocation], _, after, (run.mapFailure _).discard, ?_, ?_⟩
      · simpa using ⟨command, configured, line⟩
      · cases verdict : invocation.verdict with
        | error error =>
            intro impossible
            cases impossible
        | ok text =>
            intro _
            simpa [line] using Invocation.succeeded_of_verdict verdict

/-- The run of the container decides on the course. -/
theorem exists_issues_runLine (config : Config) (runtime : Runtime) (before : Journaled σ) :
    ∃ last result after,
      (do
        let id ← (runLine config runtime).checked.mapFailure fun error =>
          environmentError error.message
        pure { id, runtime } : Action (Journaled σ) Container).Issues before [last] result after ∧
      ∀ prior, Prepared config prior → StartCourse config (prior ++ [last]) result := by
  obtain ⟨last, after, line, run⟩ := Action.exists_issues_checked (runLine config runtime) before
  cases verdict : last.verdict with
  | error error =>
      rw [verdict] at run
      refine ⟨last, _, after, (run.mapFailure _).bind_error, fun prior prepared => ?_⟩
      exact .notRun prepared ⟨runtime, line⟩ (Invocation.not_succeeded_of_verdict verdict)
  | ok id =>
      rw [verdict] at run
      refine ⟨last, _, after, (run.mapFailure _).bind (.pure _ after), fun prior prepared => ?_⟩
      exact .started prepared ⟨line, verdict⟩

theorem exists_startCourse (config : Config) (before : Journaled σ) :
    ∃ issued result after, (start config).Issues before issued result after ∧
      StartCourse config issued result := by
  rw [start]
  -- Each part of the way either ends the course or leads on to the next.
  cases valid : config.validate with
  | error fault =>
      exact ⟨[], .error fault, before, (Action.Issues.give _ before).bind_error, .invalid valid⟩
  | ok =>
      obtain ⟨asked, chosen, asking, chooses, all_ask⟩ :=
        exists_issues_chooseRuntime config before
      cases chosen with
      | error error =>
          exact ⟨[] ++ asked, .error error, asking,
            (Action.Issues.give _ before).bind chooses.bind_error,
            .unprepared fun invocation member => .inl (all_ask invocation member)⟩
      | ok runtime =>
          obtain ⟨booted, prepared, ready, boots, kinds_booted, on_success⟩ :=
            exists_issues_runBootstrap config asking
          cases prepared with
          | error error =>
              have kinds := kinds_append all_ask kinds_booted
              exact ⟨[] ++ (asked ++ booted), .error error, ready,
                (Action.Issues.give _ before).bind (chooses.bind boots.bind_error),
                .unprepared kinds⟩
          | ok =>
              obtain ⟨succeeded, bootstrapped⟩ := on_success rfl
              have prepared : Prepared config (asked ++ booted) :=
                .of_append valid all_ask kinds_booted bootstrapped succeeded
              obtain ⟨last, result, after, runs, course⟩ :=
                exists_issues_runLine config runtime ready
              refine ⟨asked ++ booted ++ [last], result, after, ?_, course _ prepared⟩
              rw [List.append_assoc]
              exact (Action.Issues.give _ before).bind (chooses.bind (boots.bind runs))

end Courses

/-! ## What a course tells -/

theorem command_injective : Function.Injective Runtime.command := by
  rintro (_ | _) (_ | _) same
  · rfl
  · exact absurd same (by decide)
  · exact absurd same (by decide)
  · rfl

section Mentions

variable {config : Config} {issued more : List Invocation} {container other : Container}
  {invocation : Invocation} {error : Error}

/-- A run tells which container it has started. -/
theorem Starts.unique (starts : Starts config container invocation)
    (again : Starts config other invocation) : other = container := by
  have same_line := again.line.symm.trans starts.line
  have same_runtime : other.runtime = container.runtime :=
    command_injective (congrArg CommandLine.program same_line)
  have same_id : other.id = container.id :=
    Except.ok.inj (again.identity.symm.trans starts.identity)
  cases other
  cases container
  cases same_runtime
  cases same_id
  rfl

theorem Cleared.append (cleared : Cleared config issued)
    (others : ∀ invocation ∈ more, ¬ Bootstraps config invocation) :
    Cleared config (issued ++ more) := by
  refine ⟨cleared.valid, ?_, ?_⟩
  · intro command configured
    obtain ⟨invocation, member, line⟩ := cleared.bootstrapped command configured
    exact ⟨invocation, List.mem_append_left more member, line⟩
  · intro invocation member bootstraps
    rcases List.mem_append.mp member with earlier | later
    · exact cleared.succeeded invocation earlier bootstraps
    · exact absurd bootstraps (others invocation later)

theorem RunsContainer.not_bootstraps (runs : RunsContainer config invocation) :
    ¬ Bootstraps config invocation := by
  intro bootstraps
  exact absurd (runs.kind_eq.symm.trans bootstraps.kind_eq) (by decide)

theorem RunsContainer.not_preparing (runs : RunsContainer config invocation) :
    ¬ (Asks invocation ∨ Bootstraps config invocation) := by
  rintro (asks | bootstraps)
  · exact absurd (runs.kind_eq.symm.trans asks.kind_eq) (by decide)
  · exact runs.not_bootstraps bootstraps

namespace StartCourse

/-- Before a container is run, the way has been cleared. -/
theorem cleared_of_runs {result : Result Container} (course : StartCourse config issued result)
    (member : invocation ∈ issued) (runs : RunsContainer config invocation) :
    Cleared config issued := by
  cases course with
  | invalid invalid => cases member
  | unprepared kinds => exact absurd (kinds invocation member) runs.not_preparing
  | notRun prepared last_runs failed =>
      exact prepared.toCleared.append (by simpa using last_runs.not_bootstraps)
  | started prepared starts =>
      exact prepared.toCleared.append (by simpa using starts.runsContainer.not_bootstraps)

/-- If starting fails, no container was started. -/
theorem not_starts (course : StartCourse config issued (.error error))
    (member : invocation ∈ issued) : ¬ Starts config container invocation := by
  intro starts
  cases course with
  | invalid invalid => cases member
  | unprepared kinds => exact starts.runsContainer.not_preparing (kinds invocation member)
  | notRun prepared last_runs failed =>
      rcases List.mem_append.mp member with earlier | last
      · exact starts.runsContainer.not_preparing (prepared.kinds invocation earlier)
      · rw [List.mem_singleton.mp last] at starts
        have succeeded := Invocation.succeeded_of_verdict starts.identity
        exact Bool.false_ne_true (failed.symm.trans succeeded)

theorem exists_starts (course : StartCourse config issued (.ok container)) :
    ∃ invocation ∈ issued, Starts config container invocation := by
  cases course with
  | started prepared starts =>
      exact ⟨_, List.mem_append_right _ (List.mem_singleton_self _), starts⟩

/-- The container that was started is the only one. -/
theorem eq_of_starts (course : StartCourse config issued (.ok container))
    (member : invocation ∈ issued) (again : Starts config other invocation) :
    other = container := by
  cases course with
  | started prepared starts =>
      rcases List.mem_append.mp member with earlier | last
      · exact absurd (prepared.kinds invocation earlier) again.runsContainer.not_preparing
      · rw [List.mem_singleton.mp last] at again
        exact starts.unique again

theorem kinds {result : Result Container} (course : StartCourse config issued result)
    (member : invocation ∈ issued) :
    (Asks invocation ∨ Bootstraps config invocation) ∨ RunsContainer config invocation := by
  cases course with
  | invalid invalid => cases member
  | unprepared kinds => exact .inl (kinds invocation member)
  | notRun prepared last_runs failed =>
      rcases List.mem_append.mp member with earlier | last
      · exact .inl (prepared.kinds invocation earlier)
      · exact .inr (List.mem_singleton.mp last ▸ last_runs)
  | started prepared starts =>
      rcases List.mem_append.mp member with earlier | last
      · exact .inl (prepared.kinds invocation earlier)
      · exact .inr (List.mem_singleton.mp last ▸ starts.runsContainer)

end StartCourse

end Mentions

/-! ## Starting without a journal -/

section Mirrors

variable {σ : Type} [Surroundings σ]

theorem answers_mirrors (runtime : Runtime) (state : Journaled σ) :
    answers runtime state.world =
      ((answers runtime state).1, (answers runtime state).2.world) := by
  rw [answers, answers, Journaled.run_eq]
  rcases Runs.run (versionLine runtime) state.world with ⟨_ | _, _⟩ <;> rfl

theorem firstAnswering_mirrors (runtimes : List Runtime) (state : Journaled σ) :
    firstAnswering runtimes state.world =
      ((firstAnswering runtimes state).1, (firstAnswering runtimes state).2.world) := by
  induction runtimes generalizing state with
  | nil => rfl
  | cons runtime rest ih =>
      rw [firstAnswering, firstAnswering, answers_mirrors]
      rcases answers runtime state with ⟨_ | _, middle⟩
      · exact ih middle
      · rfl

theorem chooseRuntime_mirrors (config : Config) :
    Action.Mirrors (σ := σ) Eq (chooseRuntime config) (chooseRuntime config) := by
  have detect_mirrors : Action.Mirrors (σ := σ) Eq detect detect := by
    intro state
    rw [detect, detect, Action.perform_ofFunction, Action.perform_ofFunction,
      firstAnswering_mirrors]
    exact ⟨.refl _, rfl⟩
  rw [chooseRuntime, chooseRuntime]
  cases config.runtime with
  | some runtime => exact .pure rfl
  | none =>
      apply detect_mirrors.bind
      rintro answer _ rfl
      cases answer with
      | some runtime => exact .pure rfl
      | none => exact .throw _

theorem runBootstrap_mirrors (config : Config) :
    Action.Mirrors (σ := σ) Eq (runBootstrap config) (runBootstrap config) := by
  rw [runBootstrap, runBootstrap]
  cases config.bootstrap with
  | none => exact .pure rfl
  | some command => exact ((Action.Mirrors.checked _).mapFailure _).discard

/-- A container is started with a journal as it is without. -/
theorem start_mirrors (config : Config) :
    Action.Mirrors (σ := σ) Eq (start config) (start config) := by
  apply (Action.Mirrors.give (.refl config.validate)).bind
  intro _ _ _
  apply (chooseRuntime_mirrors config).bind
  rintro runtime _ rfl
  apply (runBootstrap_mirrors config).bind
  intro _ _ _
  apply ((Action.Mirrors.checked (runLine config runtime)).mapFailure _).bind
  rintro id _ rfl
  exact .pure rfl

end Mirrors

end Testbed.Docker
