import Testbed.Proofs.Docker.Start
import Testbed.Proofs.Pool.Deed

/-!
# Constructions of containers and what they leave behind

This file supplies the courses that the construction of a container as a target can take.  Up to
the run that starts the container there is nothing to clean up.  After it the construction
either gives a target, whose teardown stops and removes the container, or it has stopped and
removed the container itself.
-/

namespace Testbed.Docker

/-! ## Cleaning up -/

section Containers

variable {σ : Type} [Surroundings σ] (container : Container) (before : Journaled σ)

/-- Tearing a container down stops it and then removes it, even if stopping failed. -/
theorem exists_issues_teardown :
    ∃ stop remove result after, stop.line = container.stopLine ∧
      remove.line = container.removeLine ∧
      container.teardown.Issues before [stop, remove] result after ∧
      (result = .ok () ↔ stop.succeeded = true ∧ remove.succeeded = true) := by
  obtain ⟨stop, stopping, stop_line, stops⟩ :=
    Action.exists_issues_checked container.stopLine before
  obtain ⟨remove, after, remove_line, removes⟩ :=
    Action.exists_issues_checked container.removeLine stopping
  have stop_reported := (Action.Issues.give stop.verdict after).discard
  have remove_reported := (Action.Issues.give remove.verdict after).discard
  cases stopped : stop.verdict with
  | error error =>
      rw [stopped] at stop_reported
      refine ⟨stop, remove, .error error, after, stop_line, remove_line,
        stops.attempt.bind (removes.attempt.bind ?_), ?_⟩
      · rw [stopped]
        exact stop_reported.bind_error
      · simp [Invocation.not_succeeded_of_verdict stopped]
  | ok text =>
      rw [stopped] at stop_reported
      refine ⟨stop, remove, remove.verdict.map fun _ => (), after, stop_line, remove_line,
        stops.attempt.bind (removes.attempt.bind ?_), ?_⟩
      · rw [stopped]
        exact stop_reported.bind remove_reported
      · rw [← Invocation.isOk_verdict remove]
        cases remove.verdict <;>
          simp [Invocation.succeeded_of_verdict stopped, Except.map, Except.isOk, Except.toBool]

theorem exists_issues_ipAddress :
    ∃ look result after, look.line = container.inspectLine ∧
      container.ipAddress.Issues before [look] result after := by
  obtain ⟨look, after, line, run⟩ := Action.exists_issues_checked container.inspectLine before
  cases verdict : look.verdict with
  | error error =>
      rw [verdict] at run
      exact ⟨look, .error error, after, line, run.bind_error⟩
  | ok written =>
      rw [verdict] at run
      have reads : ∃ result, container.ipAddress.Issues before [look] result after := by
        rw [Container.ipAddress, Container.networkSetting]
        apply run.bind_quiet
        dsimp only
        split
        · exact ⟨_, .throw _ after⟩
        · split
          · exact ⟨_, .pure _ after⟩
          · exact ⟨_, .throw _ after⟩
      obtain ⟨result, read⟩ := reads
      exact ⟨look, result, after, line, read⟩

theorem Container.check_rig : (container.rig (σ := σ)).check = .ok container.rig :=
  rfl

theorem Container.check_rig_withSessions (sessions : SessionOptions → Action σ (Session σ)) :
    (container.rig.withSessions sessions).check = .ok (container.rig.withSessions sessions) :=
  rfl

end Containers

theorem issues_check {σ : Type} {rig : Rig (Journaled σ)} (passes : rig.check = .ok rig)
    (before : Journaled σ) : (Action.give rig.check).Issues before [] (.ok rig) before := by
  rw [passes]
  exact .give (.ok rig) before

/-! ## Courses of construction -/

/-- How the construction of a target can go. -/
inductive Course {σ : Type} [Surroundings σ] (config : Config) :
    List Invocation → Result (Rig (Journaled σ)) → Prop where
  | notStarted {issued : List Invocation} {error : Error}
      (course : StartCourse config issued (.error error)) : Course config issued (.error error)
  | built {issued looks : List Invocation} {container : Container} {rig : Rig (Journaled σ)}
      (started : StartCourse config issued (.ok container))
      (looking : ∀ invocation ∈ looks, invocation.line = container.inspectLine)
      (hook : rig.teardown = some container.teardown) : Course config (issued ++ looks) (.ok rig)
  | unaddressed {issued : List Invocation} {container : Container} {look stop remove : Invocation}
      {error : Error} (started : StartCourse config issued (.ok container))
      (looking : look.line = container.inspectLine) (stopping : stop.line = container.stopLine)
      (removing : remove.line = container.removeLine) :
      Course config (issued ++ [look, stop, remove]) (.error error)

variable {σ : Type} [Surroundings σ]

/-- Remote sessions are added to a container that was started, or it is cleaned up. -/
theorem exists_issues_addSessions {config : Config} {container : Container}
    {issued : List Invocation} (started : StartCourse config issued (.ok container))
    (settings : SshSettings) (before : Journaled σ) :
    ∃ more result after, (container.addSessions settings >>= fun rig => .give rig.check).Issues
      before more result after ∧ Course config (issued ++ more) result := by
  obtain ⟨look, found, looked, looking, looks⟩ := exists_issues_ipAddress container before
  cases found with
  | ok address =>
      let rig : Rig (Journaled σ) :=
        container.rig.withSessions (Surroundings.openSession (Container.endpoint address settings))
      have passes : rig.check = .ok rig := container.check_rig_withSessions _
      have adds : (container.addSessions settings).Issues before [look] (.ok rig) looked :=
        looks.attempt.bind (.pure rig looked)
      exact ⟨[look], .ok rig, looked, adds.bind (issues_check passes looked),
        .built started (by simpa using looking) rfl⟩
  | error error =>
      obtain ⟨stop, remove, result, after, stopping, removing, cleans, -⟩ :=
        exists_issues_teardown container looked
      have gives_up : (container.addSessions settings).Issues before [look, stop, remove]
          (.error (environmentError error.message)) after :=
        looks.attempt.bind (cleans.attempt.discard.bind (.throw _ after))
      exact ⟨[look, stop, remove], _, after, gives_up.bind_error,
        .unaddressed started looking stopping removing⟩

theorem exists_course (config : Config) (before : Journaled σ) :
    ∃ issued result after, (create config).Issues before issued result after ∧
      Course config issued result := by
  obtain ⟨issued, started, middle, starts, course⟩ := exists_startCourse config before
  rw [create]
  cases started with
  | error error => exact ⟨issued, .error error, middle, starts.bind_error, .notStarted course⟩
  | ok container =>
      cases config.ssh with
      | none =>
          refine ⟨issued ++ [], .ok container.rig, middle, starts.bind ?_, .built course ?_ rfl⟩
          · exact (Action.Issues.pure container.rig middle).bind
              (issues_check container.check_rig middle)
          · simp
      | some settings =>
          obtain ⟨more, result, after, adds, all⟩ :=
            exists_issues_addSessions course settings middle
          exact ⟨issued ++ more, result, after, starts.bind adds, all⟩

/-! ## Constructions without a journal -/

section Mirrors

variable {σ : Type} [Surroundings σ] (container : Container)

/-- Two rigs of the same container, one in surroundings with a journal and one without. -/
structure SameContainer (noted : Rig (Journaled σ)) (plain : Rig σ) : Prop where
  names : noted.name = plain.name
  hooks : ∃ container : Container, noted.teardown = some container.teardown ∧
    plain.teardown = some container.teardown
  checks : noted.check = .ok noted ∧ plain.check = .ok plain

theorem teardown_mirrors :
    Action.Mirrors (σ := σ) Eq container.teardown container.teardown := by
  apply (Action.Mirrors.checked container.stopLine).attempt.bind
  intro stopped _ stops
  apply (Action.Mirrors.checked container.removeLine).attempt.bind
  intro removed _ removes
  apply (Action.Mirrors.give stops).discard.bind
  intro _ _ _
  exact (Action.Mirrors.give removes).discard

theorem ipAddress_mirrors :
    Action.Mirrors (σ := σ) Eq container.ipAddress container.ipAddress := by
  apply (Action.Mirrors.checked container.inspectLine).bind
  rintro written _ rfl
  dsimp only
  cases Document.Json.parse? written with
  | none => exact .throw _
  | some document =>
      dsimp only
      split
      · exact .pure rfl
      · exact .throw _

theorem addSessions_mirrors (settings : SshSettings) :
    Action.Mirrors (σ := σ) SameContainer (container.addSessions settings)
      (container.addSessions settings) := by
  apply (ipAddress_mirrors container).attempt.bind
  rintro _ _ (same | error)
  · cases same
    exact .pure ⟨rfl, ⟨container, rfl, rfl⟩, rfl, rfl⟩
  · apply (teardown_mirrors container).attempt.discard.bind
    intro _ _ _
    exact .throw _

/-- A construction does the same with a journal as without: it fails in the same way, or it gives
a target of the same container. -/
theorem create_mirrors (config : Config) :
    Action.Mirrors (σ := σ) SameContainer (create config) (create config) := by
  have checked (noted : Rig (Journaled σ)) (plain : Rig σ) (same : SameContainer noted plain) :
      Action.Mirrors (σ := σ) SameContainer (.give noted.check) (.give plain.check) := by
    rw [same.checks.1, same.checks.2]
    exact .give (.ok same)
  apply (start_mirrors config).bind
  rintro container _ rfl
  cases config.ssh with
  | none =>
      have same : SameContainer (σ := σ) container.rig container.rig :=
        ⟨rfl, ⟨container, rfl, rfl⟩, rfl, rfl⟩
      exact (Action.Mirrors.pure same).bind checked
  | some settings => exact (addSessions_mirrors container settings).bind checked

end Mirrors

/-! ## Runs that come later -/

/-- A run that is to stop or to remove a container. -/
def Disposes (container : Container) (invocation : Invocation) : Prop :=
  invocation.line = container.stopLine ∨ invocation.line = container.removeLine

/-- A run that looks at a container that is there, stops it or removes it. -/
def ComesLater (invocation : Invocation) : Prop :=
  kind invocation.line ∈ [some "inspect", some "stop", some "rm"]

section Later

variable {config : Config} {issued more : List Invocation} {container : Container}
  {invocation : Invocation}

theorem comesLater_of_inspectLine (looking : invocation.line = container.inspectLine) :
    ComesLater invocation := by
  simp [ComesLater, looking]

theorem Disposes.comesLater (disposes : Disposes container invocation) :
    ComesLater invocation := by
  rcases disposes with stops | removes
  · simp [ComesLater, stops]
  · simp [ComesLater, removes]

theorem not_disposes_of_inspectLine {looked : Container}
    (looking : invocation.line = looked.inspectLine) : ¬ Disposes container invocation := by
  have looks := (congrArg kind looking).trans (kind_inspectLine looked)
  rintro (stops | removes)
  · exact absurd (looks.symm.trans (congrArg kind stops)) (by simp)
  · exact absurd (looks.symm.trans (congrArg kind removes)) (by simp)

theorem Asks.not_comesLater (asks : Asks invocation) : ¬ ComesLater invocation := by
  rw [ComesLater, asks.kind_eq]
  decide

theorem Bootstraps.not_comesLater (bootstraps : Bootstraps config invocation) :
    ¬ ComesLater invocation := by
  rw [ComesLater, bootstraps.kind_eq]
  decide

theorem RunsContainer.not_comesLater (runs : RunsContainer config invocation) :
    ¬ ComesLater invocation := by
  rw [ComesLater, runs.kind_eq]
  decide

theorem StartCourse.not_comesLater {result : Result Container}
    (course : StartCourse config issued result) (member : invocation ∈ issued) :
    ¬ ComesLater invocation := by
  rcases course.kinds member with (asks | bootstraps) | runs
  · exact asks.not_comesLater
  · exact bootstraps.not_comesLater
  · exact runs.not_comesLater

theorem StartCourse.cleared_append (started : StartCourse config issued (.ok container))
    (later : ∀ invocation ∈ more, ComesLater invocation) (member : invocation ∈ issued ++ more)
    (runs : RunsContainer config invocation) : Cleared config (issued ++ more) := by
  rcases List.mem_append.mp member with early | late
  · apply (started.cleared_of_runs early runs).append
    intro other member bootstraps
    exact bootstraps.not_comesLater (later other member)
  · exact absurd (later invocation late) runs.not_comesLater

end Later

section Leaks

variable {config : Config} {issued : List Invocation} {container : Container}
  {invocation : Invocation} {error : Error}

/-! ## Releasing containers -/

/-- Tearing down a target made of a rig stops a container and removes it, once and whatever
comes of stopping; it is a failure if either fails.  Tearing it down again does nothing. -/
def ReleasesOnce (rig : Rig (Journaled σ)) (container : Container) : Prop :=
  ∀ (site : Site (Journaled σ)) (target : Target (Journaled σ)),
    target.toRig = rig → site.isTornDown target = false →
      (∃ stop remove, stop.line = container.stopLine ∧ remove.line = container.removeLine ∧
        (site.teardown target).2.world.journal = site.world.journal ++ [stop, remove] ∧
        ((site.teardown target).1 = .ok () ↔
          stop.succeeded = true ∧ remove.succeeded = true)) ∧
      (site.teardown target).2.teardown target = (.ok (), (site.teardown target).2)

theorem releasesOnce_of_hook {rig : Rig (Journaled σ)}
    (hook : rig.teardown = some container.teardown) : ReleasesOnce rig container := by
  rintro site target rfl standing
  obtain ⟨stop, remove, result, after, stopping, removing, cleans, succeeds⟩ :=
    exists_issues_teardown container site.world
  have hooked := cleans.mapFailure fun error => .environment target.name error.message
  constructor
  · refine ⟨stop, remove, stopping, removing, ?_⟩
    rw [Site.teardown_of_standing standing, Site.callHook, Target.hook, hook]
    dsimp only
    rw [hooked.performed]
    refine ⟨hooked.noted, ?_⟩
    rw [← succeeds]
    cases result with
    | ok value => exact Iff.rfl
    | error error =>
        constructor
        · intro impossible
          cases impossible
        · intro impossible
          cases impossible
  · exact Site.teardown_of_tornDown Site.isTornDown_teardown

/-! ## No container is left behind -/

namespace Course

theorem comesLater_of_mem {look stop remove : Invocation}
    (looking : look.line = container.inspectLine) (stopping : stop.line = container.stopLine)
    (removing : remove.line = container.removeLine) :
    ∀ invocation ∈ [look, stop, remove], ComesLater invocation := by
  simp only [List.forall_mem_cons]
  exact ⟨comesLater_of_inspectLine looking, Disposes.comesLater (.inl stopping),
    Disposes.comesLater (.inr removing), by simp⟩

/-- A construction that fails after it has started its container ends with the clean-up. -/
theorem cleans_up (course : Course (σ := σ) config issued (.error error))
    (member : invocation ∈ issued) (starts : Starts config container invocation) :
    ∃ earlier stop remove, issued = earlier ++ [stop, remove] ∧
      stop.line = container.stopLine ∧ remove.line = container.removeLine := by
  cases course with
  | notStarted course => exact absurd starts (course.not_starts member)
  | @unaddressed issued own look stop remove _ started looking stopping removing =>
      rcases List.mem_append.mp member with earlier | later
      · rw [started.eq_of_starts earlier starts]
        exact ⟨issued ++ [look], stop, remove, by simp, stopping, removing⟩
      · -- What comes after starting is no run of a container.
        have late := comesLater_of_mem looking stopping removing invocation later
        exact absurd late starts.runsContainer.not_comesLater

/-- A construction that gives a target leaves the clean-up to its teardown. -/
theorem releases {rig : Rig (Journaled σ)} (course : Course config issued (.ok rig)) :
    (∀ invocation ∈ issued, ∀ container, ¬ Disposes container invocation) ∧
      ∃ container, (∃ run ∈ issued, Starts config container run) ∧ ReleasesOnce rig container := by
  cases course with
  | @built issued looks container _ started looking hook =>
      obtain ⟨run, member, starts⟩ := started.exists_starts
      refine ⟨?_, container, ⟨run, List.mem_append_left looks member, starts⟩,
        releasesOnce_of_hook hook⟩
      intro invocation member other
      rcases List.mem_append.mp member with earlier | later
      · exact fun disposes => started.not_comesLater earlier disposes.comesLater
      · exact not_disposes_of_inspectLine (looking invocation later)

/-- A container is run only after the way has been cleared. -/
theorem cleared_of_runs {result : Result (Rig (Journaled σ))} (course : Course config issued result)
    (member : invocation ∈ issued) (runs : RunsContainer config invocation) :
    Cleared config issued := by
  cases course with
  | notStarted course => exact course.cleared_of_runs member runs
  | built started looking hook =>
      exact started.cleared_append
        (fun look later => comesLater_of_inspectLine (looking look later)) member runs
  | unaddressed started looking stopping removing =>
      exact started.cleared_append (comesLater_of_mem looking stopping removing) member runs

end Course

/-- No container is left behind by a construction that fails.  If the construction fails although
its container was started, it has ended with stopping and removing it.  If there is a target,
nothing was stopped or removed, and tearing the target down does it.  The container is run only
if the settings are valid and the command before it has not failed. -/
theorem create_leaks_no_container (config : Config) (world : σ) :
    let made := (create config).perform (⟨world, []⟩ : Journaled σ)
    let journal := made.2.journal
    (Action.Corresponds SameContainer made.1 ((create config).perform world).1 ∧
      made.2.world = ((create config).perform world).2) ∧
    (∀ error container, made.1 = .error error →
      (∃ run ∈ journal, Starts config container run) →
        ∃ earlier stop remove, journal = earlier ++ [stop, remove] ∧
          stop.line = container.stopLine ∧ remove.line = container.removeLine) ∧
    (∀ rig, made.1 = .ok rig →
      (∀ invocation ∈ journal, ∀ container, ¬ Disposes container invocation) ∧
      ∃ container, (∃ run ∈ journal, Starts config container run) ∧
        ReleasesOnce rig container) ∧
    ∀ run ∈ journal, RunsContainer config run → Cleared config journal := by
  intro made journal
  obtain ⟨issued, result, after, creates, course⟩ :=
    exists_course config (⟨world, []⟩ : Journaled σ)
  have made_eq : made = (result, after) := creates.performed
  have journal_eq : journal = issued := by
    change made.2.journal = issued
    rw [made_eq]
    exact creates.noted
  have mirrored := create_mirrors config (⟨world, []⟩ : Journaled σ)
  rw [creates.performed] at mirrored
  rw [journal_eq, made_eq]
  refine ⟨mirrored, ?_, ?_, fun run member runs => course.cleared_of_runs member runs⟩
  · rintro error container rfl ⟨run, member, starts⟩
    exact course.cleans_up member starts
  · rintro rig rfl
    exact course.releases

/-! ## Rehearsed programs -/

/-- Surroundings in which the programs that are run come to what has been laid down for them. -/
structure Rehearsed where
  outcomes : List (Except String Finished)

instance : Surroundings Rehearsed where
  run _ state :=
    match state.outcomes with
    | [] => (.error "nothing has been laid down", state)
    | outcome :: rest => (outcome, ⟨rest⟩)
  requireFile _ := pure ()
  makeParent _ := pure ()
  openSession _ _ := throw (.connection "no sessions")

theorem exists_error_of_not_isOk {α : Type} {result : Result α} (failed : result.isOk = false) :
    ∃ error, result = .error error := by
  cases result with
  | ok value => contradiction
  | error error => exact ⟨error, rfl⟩

theorem eq_ok_of_toOption {α : Type} {result : Result α} {value : α}
    (given : result.toOption = some value) : result = .ok value := by
  cases result with
  | ok other => exact congrArg Except.ok (Option.some.inj given)
  | error error => contradiction

/-- A container whose address cannot be found, and which cannot even be stopped. -/
theorem create_leaks_no_container_unaddressed :
    let config : Config := { image := "ubuntu", runtime := some .podman, ssh := some {} }
    let container : Container := { id := "c0ffee", runtime := .podman }
    let world : Rehearsed :=
      ⟨[.ok ⟨.code 0, [99, 48, 102, 102, 101, 101, 10], []⟩, .error "lost", .error "lost",
        .ok ⟨.code 0, [], []⟩]⟩
    ∃ earlier stop remove,
      ((create config).perform (⟨world, []⟩ : Journaled Rehearsed)).2.journal =
        earlier ++ [stop, remove] ∧
      stop.line = container.stopLine ∧ remove.line = container.removeLine := by
  intro config container world
  obtain ⟨-, cleans_up, -, -⟩ := create_leaks_no_container config world
  have failed : ((create config).perform (⟨world, []⟩ : Journaled Rehearsed)).1.isOk = false := by
    unfold world config
    decide +kernel
  have listed : ((create config).perform (⟨world, []⟩ : Journaled Rehearsed)).2.journal.any
      (fun run => run.line = runLine config .podman ∧ run.verdict.toOption = some "c0ffee") =
        true := by
    unfold world config
    decide +kernel
  obtain ⟨run, member, known⟩ := List.any_eq_true.mp listed
  obtain ⟨line, given⟩ := of_decide_eq_true known
  obtain ⟨error, fails⟩ := exists_error_of_not_isOk failed
  exact cleans_up error container fails ⟨run, member, line, eq_ok_of_toOption given⟩

end Leaks

end Testbed.Docker
