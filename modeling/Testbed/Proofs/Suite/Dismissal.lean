import Testbed.Proofs.Suite.Run

/-!
# Dismissals of targets

This file supplies the ledger of a run of a suite: every target that is torn down, the
occasion of it, and what the hook of the target came to.  A body can ask for it; in test
scope a target is torn down when it is handed back; a target that cannot be trusted any
more is dropped; and what still stands in the end is torn down when the pool is shut down.

A hook that fails comes to light on every occasion but one.  It fails the body that asked
for it as a failure of the environment, a target is only dropped after such a failure, and
shutting the pool down reports it.  But what goes wrong when a target is handed back is
only logged, so a run in test scope can succeed although a hook has failed.
-/

namespace Testbed

variable {σ : Type}

/-- On what occasion a target is torn down. -/
inductive Occasion where
  /-- The body of a test asks for it. -/
  | body
  /-- The target is handed back after a test. -/
  | handedBack
  /-- The target cannot be trusted any more. -/
  | dropped
  /-- The pool is shut down. -/
  | closing
  deriving DecidableEq, Repr

/-- The teardown of a target. -/
structure Dismissal (σ : Type) where
  target : Target σ
  occasion : Occasion
  /-- What the hook of the target came to. -/
  result : Result Unit

namespace Dismissal

variable {dismissal : Dismissal σ} {scope : Scope} {told later : Prop}

/-- The hook failed. -/
def Failed (dismissal : Dismissal σ) : Prop :=
  ∃ error, dismissal.result = .error error

/-- The targets that were dismissed. -/
def numbers (dismissals : List (Dismissal σ)) : List Nat :=
  dismissals.map (·.target.id)

theorem numbers_append (first second : List (Dismissal σ)) :
    numbers (first ++ second) = numbers first ++ numbers second :=
  List.map_append

/-- During the tests of a run in some scope a target was dismissed, and if its hook failed
that was told, unless the target was handed back. -/
def DuringTests (dismissal : Dismissal σ) (scope : Scope) (told : Prop) : Prop :=
  match dismissal.occasion with
  | .body | .dropped => dismissal.Failed → told
  | .handedBack => scope = .perTest
  | .closing => False

theorem DuringTests.mono (during : dismissal.DuringTests scope told) (further : told → later) :
    dismissal.DuringTests scope later := by
  rw [DuringTests] at during ⊢
  split at during
  next => exact fun failed => further (during failed)
  next => exact fun failed => further (during failed)
  next => exact during
  next => exact during

theorem DuringTests.scope_eq (during : dismissal.DuringTests scope told)
    (handedBack : dismissal.occasion = .handedBack) : scope = .perTest := by
  rw [DuringTests, handedBack] at during
  exact during

/-- Only when a target is handed back can its hook fail and nothing be told of it. -/
theorem DuringTests.handedBack (during : dismissal.DuringTests scope told) (untold : ¬told)
    (failed : dismissal.Failed) : dismissal.occasion = .handedBack := by
  rw [DuringTests] at during
  split at during
  next => exact absurd (during failed) untold
  next => exact absurd (during failed) untold
  next handedBack => exact handedBack
  next => exact during.elim

end Dismissal

/-! ## Hooks -/

namespace Site

variable {site : Site σ} {target : Target σ} {occasion : Occasion} {dismissal : Dismissal σ}

/-- The dismissal of a target, unless it has been torn down before. -/
def dismissals (site : Site σ) (target : Target σ) (occasion : Occasion) :
    List (Dismissal σ) :=
  if site.isTornDown target then
    []
  else
    [{ target, occasion, result := (target.hook.perform site.world).1 }]

theorem occasion_of_mem_dismissals (here : dismissal ∈ site.dismissals target occasion) :
    dismissal.occasion = occasion := by
  rw [dismissals] at here
  split at here
  next => exact absurd here List.not_mem_nil
  next => rw [List.mem_singleton.mp here]

/-- The register grows by the targets that are dismissed. -/
theorem tornDown_teardown (site : Site σ) (target : Target σ) (occasion : Occasion) :
    (site.teardown target).2.tornDown =
      Dismissal.numbers (site.dismissals target occasion) ++ site.tornDown := by
  cases standing : site.isTornDown target with
  | true =>
      rw [teardown_of_tornDown standing, dismissals, if_pos standing]
      rfl
  | false =>
      rw [teardown_of_standing standing, dismissals, standing]
      rfl

/-- A teardown succeeds if no hook fails. -/
theorem teardown_eq_ok_iff :
    (site.teardown target).1 = .ok () ↔
      ∀ dismissal ∈ site.dismissals target occasion, ¬dismissal.Failed := by
  cases standing : site.isTornDown target with
  | true => simp [teardown_of_tornDown standing, dismissals, standing]
  | false =>
      simp only [teardown_of_standing standing, dismissals, standing, Bool.false_eq_true,
        if_false, List.forall_mem_singleton, Dismissal.Failed]
      cases (target.hook.perform site.world).1 <;> simp

/-- What goes wrong in a teardown is a failure of the environment. -/
theorem isEnvironment_of_teardown {error : Error}
    (failed : (site.teardown target).1 = .error error) : error.isEnvironment := by
  cases standing : site.isTornDown target with
  | true => simp [teardown_of_tornDown standing] at failed
  | false =>
      rw [teardown_of_standing standing, Target.hook] at failed
      cases has_hook : target.teardown with
      | none =>
          rw [has_hook] at failed
          cases failed
      | some hook =>
          simp only [has_hook, Action.mapFailure, Action.perform_ofFunction] at failed
          cases outcome : (hook.perform site.world).1 with
          | ok _ => simp [outcome, Except.mapError] at failed
          | error reason =>
              simp only [outcome, Except.mapError, Except.error.injEq] at failed
              rw [← failed]
              rfl

end Site

/-! ## Pieces of a run -/

/-- A piece of a run takes a pool from one state to another and dismisses some targets, the
latest first; a hook that fails is told, unless its target was handed back. -/
structure Dismisses (before : Pool σ) (dismissals : List (Dismissal σ)) (after : Pool σ)
    (told : Prop) : Prop where
  scope_eq : after.scope = before.scope
  tornDown_eq :
    after.site.tornDown = Dismissal.numbers dismissals ++ before.site.tornDown
  during : ∀ dismissal ∈ dismissals, dismissal.DuringTests before.scope told

namespace Dismisses

variable {before middle after : Pool σ} {dismissals first second : List (Dismissal σ)}
variable {told later : Prop}

/-- A piece that leaves the register as it is. -/
theorem nothing (leaves : after.scope = before.scope ∧ after.site.tornDown = before.site.tornDown) :
    Dismisses before [] after told :=
  ⟨leaves.1, leaves.2, fun _ none => absurd none List.not_mem_nil⟩

/-- What leaves the register as it is may stand before a piece. -/
theorem ofLeaves (dismisses : Dismisses middle dismissals after told)
    (leaves : middle.scope = before.scope ∧ middle.site.tornDown = before.site.tornDown) :
    Dismisses before dismissals after told :=
  ⟨dismisses.scope_eq.trans leaves.1, leaves.2 ▸ dismisses.tornDown_eq,
    leaves.1 ▸ dismisses.during⟩

theorem mono (dismisses : Dismisses before dismissals after told) (further : told → later) :
    Dismisses before dismissals after later :=
  ⟨dismisses.scope_eq, dismisses.tornDown_eq,
    fun dismissal here => (dismisses.during dismissal here).mono further⟩

/-- One piece after the other. -/
theorem trans (begun : Dismisses before first middle told)
    (ended : Dismisses middle second after told) :
    Dismisses before (second ++ first) after told where
  scope_eq := ended.scope_eq.trans begun.scope_eq
  tornDown_eq := by
    rw [ended.tornDown_eq, begun.tornDown_eq, Dismissal.numbers_append, List.append_assoc]
  during := by
    intro dismissal here
    rcases List.mem_append.mp here with here | here
    · exact begun.scope_eq ▸ ended.during dismissal here
    · exact begun.during dismissal here

/-- Tearing a target down. -/
theorem teardown (target : Target σ) (occasion : Occasion)
    (scope_eq : after.scope = before.scope)
    (site_eq : after.site = (before.site.teardown target).2)
    (during : ∀ dismissal ∈ before.site.dismissals target occasion,
      dismissal.DuringTests before.scope told) :
    Dismisses before (before.site.dismissals target occasion) after told :=
  ⟨scope_eq, by rw [site_eq, Site.tornDown_teardown], during⟩

end Dismisses

namespace Pool

variable {pool : Pool σ} {target : Target σ} {told : Prop}

/-- Whom handing a target back dismisses, on some occasion. -/
def releaseDismissals (pool : Pool σ) (target : Target σ) (occasion : Occasion) :
    List (Dismissal σ) :=
  match pool.scope with
  | .session => []
  | .perTest => pool.site.dismissals target occasion

/-- Whom dropping a target dismisses. -/
def discardDismissals (pool : Pool σ) (target : Target σ) : List (Dismissal σ) :=
  match pool.scope with
  | .session => (pool.session.map (pool.site.dismissals · .dropped)).getD []
  | .perTest => pool.releaseDismissals target .dropped

theorem dismisses_releaseOn (occasion : Occasion)
    (during : ∀ dismissal : Dismissal σ, dismissal.occasion = occasion →
      dismissal.DuringTests .perTest told) :
    Dismisses pool (pool.releaseDismissals target occasion) (pool.release target).2 told := by
  rw [releaseDismissals, release]
  cases perTest : pool.scope with
  | session => exact .nothing ⟨rfl, rfl⟩
  | perTest =>
      refine .teardown target occasion rfl rfl ?_
      intro dismissal here
      rw [perTest]
      exact during dismissal (Site.occasion_of_mem_dismissals here)

/-- Handing a target back tears it down in test scope only, and tells nothing. -/
theorem dismisses_release :
    Dismisses pool (pool.releaseDismissals target .handedBack) (pool.release target).2 told := by
  apply dismisses_releaseOn
  intro dismissal handedBack
  rw [Dismissal.DuringTests, handedBack]

/-- Dropping a target is for a reason that is told. -/
theorem dismisses_discard (reason : told) :
    Dismisses pool (pool.discardDismissals target) (pool.discard target).2 told := by
  have during : ∀ dismissal : Dismissal σ, dismissal.occasion = .dropped → ∀ scope,
      dismissal.DuringTests scope told := by
    intro dismissal dropped scope
    rw [Dismissal.DuringTests, dropped]
    exact fun _ => reason
  rw [discardDismissals, discard]
  cases pool.scope with
  | session =>
      rw [invalidate]
      cases pool.session with
      | none => exact .nothing ⟨rfl, rfl⟩
      | some kept =>
          refine .teardown kept .dropped rfl rfl ?_
          intro dismissal here
          exact during dismissal (Site.occasion_of_mem_dismissals here) _
  | perTest =>
      apply dismisses_releaseOn
      exact fun dismissal dropped => during dismissal dropped _

end Pool

/-! ## Bodies -/

/-- Whom the turns of a body dismiss, `elapsed` after its start. -/
def turnDismissals (target : Target σ) (limit : Option Span) :
    Span → List (Turn σ) → Site σ → List (Dismissal σ)
  | _, [], _ => []
  | elapsed, turn :: rest, site =>
      let elapsed := elapsed + turn.delay
      match limit.filter (· < elapsed) with
      | some _ => []
      | none =>
          let (turnEnd, world) := turn.act site.world
          let site := { site with world }
          match turnEnd with
          | .goOn => turnDismissals target limit elapsed rest site
          | .tearDown =>
              let (result, later) := site.teardown target
              let asked := site.dismissals target .body
              match result with
              | .ok () => turnDismissals target limit elapsed rest later ++ asked
              | .error _ => asked
          | .fail _ => []
          | .panic _ => []

/-- A body came to a failure of the environment. -/
def LosesEnvironment (result : Result Unit) : Prop :=
  ∃ error, result = .error error ∧ error.isEnvironment

/-- The failure of a hook that a body asks for is one of the environment. -/
theorem dismisses_asked (pool : Pool σ) (target : Target σ) :
    Dismisses pool (pool.site.dismissals target .body) (pool.teardown target).2
      (LosesEnvironment (pool.site.teardown target).1) := by
  refine .teardown target .body rfl rfl ?_
  intro dismissal here
  rw [Dismissal.DuringTests, Site.occasion_of_mem_dismissals here]
  intro failed
  cases outcome : (pool.site.teardown target).1 with
  | ok _ => exact absurd failed (Site.teardown_eq_ok_iff.mp outcome dismissal here)
  | error error => exact ⟨error, rfl, Site.isEnvironment_of_teardown outcome⟩

theorem dismisses_runTurns (pool : Pool σ) (target : Target σ) (limit : Option Span)
    (elapsed : Span) (turns : List (Turn σ)) :
    let ran := runTurns target limit elapsed turns pool.site
    Dismisses pool (turnDismissals target limit elapsed turns pool.site)
      { pool with site := ran.2 } (LosesEnvironment ran.1) := by
  induction turns generalizing pool elapsed with
  | nil => exact .nothing ⟨rfl, rfl⟩
  | cons turn rest ih =>
      rw [runTurns, turnDismissals]
      cases limit.filter (· < elapsed + turn.delay) with
      | some limit => exact .nothing ⟨rfl, rfl⟩
      | none =>
        rcases turn.act pool.site.world with ⟨turnEnd, world⟩
        cases turnEnd with
        | goOn => exact (ih (pool.inWorld world) _).ofLeaves ⟨rfl, rfl⟩
        | tearDown =>
            rcases outcome : (pool.inWorld world).site.teardown target with ⟨result, later⟩
            have asked := dismisses_asked (pool.inWorld world) target
            rw [Pool.teardown, outcome] at asked
            rw [Pool.inWorld] at outcome
            dsimp only at asked outcome ⊢
            rw [outcome]
            cases result with
            | ok _ =>
                -- The hook did not fail, so whatever the other turns come to tells of it.
                have further := ih { pool with site := later } (elapsed + turn.delay)
                refine ((asked.mono ?_).trans further).ofLeaves ⟨rfl, rfl⟩
                rintro ⟨_, ⟨⟩, -⟩
            | error error => exact asked.ofLeaves ⟨rfl, rfl⟩
        | fail error => exact .nothing ⟨rfl, rfl⟩
        | panic payload => exact .nothing ⟨rfl, rfl⟩

/-- Whom the body of a test dismisses. -/
def bodyDismissals (test : TestCase σ) (target : Target σ) (site : Site σ) :
    List (Dismissal σ) :=
  match test.body target site.world with
  | (.panicked _, _) => []
  | (.started turns, world) =>
      turnDismissals target test.limit .zero turns { site with world }

namespace Suite

variable {progress : Progress σ} {target : Target σ}
variable (preflight : Option Preflight) (test : TestCase σ)

theorem dismisses_runBody (pool : Pool σ) (target : Target σ) :
    let ran := runBody test target pool.site
    Dismisses pool (bodyDismissals test target pool.site) { pool with site := ran.2 }
      (∀ result, ran.1 = .ok result → LosesEnvironment result) := by
  rw [runBody, bodyDismissals]
  rcases test.body target pool.site.world with ⟨start, world⟩
  cases start with
  | panicked payload => exact .nothing ⟨rfl, rfl⟩
  | started turns =>
      have followed := dismisses_runTurns (pool.inWorld world) target test.limit .zero turns
      refine (followed.mono ?_).ofLeaves ⟨rfl, rfl⟩
      rintro loses result ⟨⟩
      exact loses

/-! ## Tests -/

/-- Whom settling a body dismisses. -/
def settleDismissals (pool : Pool σ) (target : Target σ) : Result Unit → List (Dismissal σ)
  | .ok () => pool.releaseDismissals target .handedBack
  | .error error =>
      if error.isEnvironment then
        pool.discardDismissals target
      else
        pool.releaseDismissals target .handedBack

theorem dismisses_settle (progress : Progress σ) (target : Target σ) (result : Result Unit) :
    let settled := settle progress target result
    Dismisses progress.pool (settleDismissals progress.pool target result) settled.2.pool
        (settled.1.isEnvironmentError = true) ∧
      (LosesEnvironment result → settled.1.isEnvironmentError = true) := by
  cases result with
  | ok _ =>
      constructor
      · exact progress.pool.dismisses_release
      · rintro ⟨error, failed, -⟩
        exact nomatch failed
  | error error =>
      rw [settle, settleDismissals]
      split
      next => exact ⟨progress.pool.dismisses_discard rfl, fun _ => rfl⟩
      next harmless =>
        constructor
        · exact progress.pool.dismisses_release
        · rintro ⟨_, ⟨⟩, environment⟩
          exact absurd environment harmless

/-- Whom a test dismisses whose gate accepts the target. -/
def runOnDismissals (progress : Progress σ) (target : Target σ) : List (Dismissal σ) :=
  match checkTarget preflight progress target with
  | (.error _, progress) => progress.pool.discardDismissals target
  | (.ok (), progress) =>
      let asked := bodyDismissals test target progress.pool.site
      match runBody test target progress.pool.site with
      | (.error _, _) => asked
      | (.ok result, site) =>
          settleDismissals { progress.pool with site } target result ++ asked

/-- A check leaves the scope as it is and tears no target down. -/
theorem checkTarget_leaves (progress : Progress σ) (target : Target σ) :
    let checked := (checkTarget preflight progress target).2.pool
    checked.scope = progress.pool.scope ∧
      checked.site.tornDown = progress.pool.site.tornDown := by
  cases preflight with
  | none => exact ⟨rfl, rfl⟩
  | some preflight =>
      rw [checkTarget]
      split
      next => exact ⟨rfl, rfl⟩
      next =>
        rw [Progress.perform, Site.perform]
        rcases (preflight.run target).perform progress.pool.site.world with ⟨result, world⟩
        cases result <;> exact ⟨rfl, rfl⟩

theorem dismisses_runOn (progress : Progress σ) (target : Target σ) :
    let ran := runOn preflight test progress target
    Dismisses progress.pool (runOnDismissals preflight test progress target) ran.2.pool
      (∀ outcome, ran.1 = .ok outcome → outcome.isEnvironmentError = true) := by
  rw [runOn, runOnDismissals]
  have leaves := checkTarget_leaves preflight progress target
  rcases check : checkTarget preflight progress target with ⟨result, checked⟩
  rw [check] at leaves
  refine Dismisses.ofLeaves ?_ leaves
  cases result with
  | error error =>
      apply checked.pool.dismisses_discard
      rintro outcome ⟨⟩
      rfl
  | ok _ =>
      have asked := dismisses_runBody test checked.pool target
      rcases body : runBody test target checked.pool.site with ⟨ended, site⟩
      rw [body] at asked
      dsimp only at asked ⊢
      rw [body]
      cases ended with
      | error payload =>
          apply asked.mono
          rintro - outcome ⟨⟩
      | ok result =>
          have settled := dismisses_settle
            { checked with pool := { checked.pool with site } } target result
          dsimp only at settled ⊢
          rcases settled with ⟨settled, loses⟩
          apply Dismisses.mono (.trans (asked.mono _) settled)
          · rintro told outcome ⟨⟩
            exact told
          · intro reported
            exact loses (reported result rfl)

/-- Whom a test dismisses. -/
def testDismissals (progress : Progress σ) : List (Dismissal σ) :=
  match progress.pool.acquire with
  | (.error _, _) => []
  | (.ok target, pool) =>
      match test.gate.evaluate target.capabilities with
      | .skip _ => pool.releaseDismissals target .handedBack
      | .run => runOnDismissals preflight test { progress with pool } target

theorem dismisses_runTest (progress : Progress σ) :
    let ran := runTest preflight test progress
    Dismisses progress.pool (testDismissals preflight test progress) ran.2.pool
      (∀ result, ran.1 = .ok result → result.outcome.isEnvironmentError = true) := by
  rw [runTest, testDismissals]
  have leaves := progress.pool.acquire_leaves
  rcases acquired : progress.pool.acquire with ⟨given, pool⟩
  rw [acquired] at leaves
  refine Dismisses.ofLeaves ?_ leaves
  cases given with
  | error error => exact .nothing ⟨rfl, rfl⟩
  | ok target =>
      dsimp only
      cases test.gate.evaluate target.capabilities with
      | skip missing => exact pool.dismisses_release
      | run =>
          have ran := dismisses_runOn preflight test { progress with pool } target
          dsimp only at ran ⊢
          apply ran.mono
          intro told result finished
          rcases map_eq_ok_iff.mp finished with ⟨outcome, ended, rfl⟩
          exact told outcome ended

/-- Whom tests dismiss, the latest first. -/
def testsDismissals : List (TestCase σ) → Progress σ → List (Dismissal σ)
  | [], _ => []
  | test :: rest, progress =>
      let first := testDismissals preflight test progress
      match runTest preflight test progress with
      | (.error _, _) => first
      | (.ok _, progress) => testsDismissals rest progress ++ first

/-- A failing hook that is told makes a result that tells of the environment. -/
theorem dismisses_runTests (tests : List (TestCase σ)) (progress : Progress σ) :
    let ran := runTests preflight tests progress
    Dismisses progress.pool (testsDismissals preflight tests progress) ran.2.pool
      (∀ results, ran.1 = .ok results →
        ∃ result ∈ results, result.outcome.isEnvironmentError = true) := by
  induction tests generalizing progress with
  | nil => exact .nothing ⟨rfl, rfl⟩
  | cons test rest ih =>
      rw [runTests, testsDismissals]
      have begun := dismisses_runTest preflight test progress
      rcases first : runTest preflight test progress with ⟨ended, later⟩
      rw [first] at begun
      cases ended with
      | error payload =>
          apply begun.mono
          rintro - results ⟨⟩
      | ok result =>
          have further := ih later
          dsimp only at begun further ⊢
          apply Dismisses.trans (begun.mono _) (further.mono _)
          · intro told results finished
            rcases map_eq_ok_iff.mp finished with ⟨others, -, rfl⟩
            exact ⟨result, List.mem_cons_self, told result rfl⟩
          · intro told results finished
            rcases map_eq_ok_iff.mp finished with ⟨others, finishedToo, rfl⟩
            rcases told others finishedToo with ⟨other, here, environment⟩
            exact ⟨other, List.mem_cons_of_mem _ here, environment⟩

end Suite

/-! ## Shutting down -/

section Closing

variable {site : Site σ} {targets : List (Target σ)}

/-- Whom tearing targets down in order dismisses, the latest first. -/
def closingDismissals : Site σ → List (Target σ) → List (Dismissal σ)
  | _, [] => []
  | site, target :: rest =>
      closingDismissals (site.teardown target).2 rest ++ site.dismissals target .closing

theorem tornDown_teardownAll (site : Site σ) (targets : List (Target σ)) :
    (Pool.teardownAll site targets).2.tornDown =
      Dismissal.numbers (closingDismissals site targets) ++ site.tornDown := by
  induction targets generalizing site with
  | nil => rfl
  | cons target rest ih =>
      rw [Pool.teardownAll, closingDismissals]
      dsimp only
      rw [ih, Site.tornDown_teardown site target .closing, Dismissal.numbers_append,
        List.append_assoc]

theorem occasion_of_mem_closingDismissals {dismissal : Dismissal σ}
    (here : dismissal ∈ closingDismissals site targets) : dismissal.occasion = .closing := by
  induction targets generalizing site with
  | nil => exact absurd here List.not_mem_nil
  | cons target rest ih =>
      rcases List.mem_append.mp here with here | here
      · exact ih here
      · exact Site.occasion_of_mem_dismissals here

/-- Tearing targets down succeeds if no hook fails. -/
theorem teardownAll_eq_ok_iff :
    (Pool.teardownAll site targets).1 = .ok () ↔
      ∀ dismissal ∈ closingDismissals site targets, ¬dismissal.Failed := by
  induction targets generalizing site with
  | nil => simp [Pool.teardownAll, closingDismissals]
  | cons target rest ih =>
      rw [Pool.teardownAll, closingDismissals]
      dsimp only
      rw [List.forall_mem_append, ← ih, ← Site.teardown_eq_ok_iff]
      cases (site.teardown target).1 <;> simp [Except.bind]

end Closing

/-! ## Runs -/

theorem TestOutcome.isPassed_or_isSkipped_iff {outcome : TestOutcome} :
    (outcome.isPassed ∨ outcome.isSkipped) ↔
      outcome.isFailed = false ∧ outcome.isEnvironmentError = false := by
  cases outcome <;> simp [isPassed, isSkipped, isFailed, isEnvironmentError]

/-- A run succeeds if every test passed or was held back and the shutdown went well. -/
theorem SuiteReport.success_iff (report : SuiteReport) :
    report.success = true ↔
      (∀ result ∈ report.results, result.outcome.isPassed ∨ result.outcome.isSkipped) ∧
        report.teardownError = none := by
  simp only [success, failed, environmentErrors, count, decide_eq_true_eq,
    TestOutcome.isPassed_or_isSkipped_iff, List.length_eq_zero_iff, List.filter_eq_nil_iff,
    Bool.not_eq_true, ← and_assoc, ← forall_and]

namespace Suite

/-- Every target that a run of a suite dismisses, the latest first. -/
def dismissals (suite : Suite σ) (pool : Pool σ) : List (Dismissal σ) :=
  let during := testsDismissals suite.preflight suite.tests { pool }
  match runTests suite.preflight suite.tests { pool } with
  | (.error _, _) => during
  | (.ok _, progress) => closingDismissals progress.pool.site progress.pool.live ++ during

section Finished

variable {suite : Suite σ} {pool : Pool σ} {results : List TestResult} {last : Progress σ}
variable (finished : runTests suite.preflight suite.tests { pool } = (.ok results, last))

include finished

/-- When every test has come to a result, the pool is shut down and that is reported. -/
theorem run_of_finished :
    (∃ report, (suite.run pool).1 = .ok report ∧ report.results = results ∧
        (report.teardownError = none ↔ last.pool.shutdown.1 = .ok ())) ∧
      (suite.run pool).2 = last.pool.shutdown.2 := by
  rw [run, finished]
  constructor
  · refine ⟨_, rfl, rfl, ?_⟩
    cases last.pool.shutdown.1 <;> simp
  · rfl

theorem dismissals_of_finished :
    suite.dismissals pool = closingDismissals last.pool.site last.pool.live ++
      testsDismissals suite.preflight suite.tests { pool } := by
  rw [dismissals, finished]

theorem dismisses_of_finished :
    Dismisses pool (testsDismissals suite.preflight suite.tests { pool }) last.pool
      (∃ result ∈ results, result.outcome.isEnvironmentError = true) := by
  have tests := dismisses_runTests suite.preflight suite.tests { pool }
  rw [finished] at tests
  exact tests.mono fun told => told results rfl

/-- The ledger is the register. -/
theorem numbers_of_finished :
    (suite.run pool).2.site.tornDown =
      Dismissal.numbers (suite.dismissals pool) ++ pool.site.tornDown := by
  rw [(run_of_finished finished).2, dismissals_of_finished finished, Dismissal.numbers_append,
    List.append_assoc, ← (dismisses_of_finished finished).tornDown_eq]
  exact tornDown_teardownAll last.pool.site last.pool.live

theorem perTest_of_handedBack {dismissal : Dismissal σ} (here : dismissal ∈ suite.dismissals pool)
    (handedBack : dismissal.occasion = .handedBack) : pool.scope = .perTest := by
  rw [dismissals_of_finished finished] at here
  rcases List.mem_append.mp here with closing | here
  · cases handedBack.symm.trans (occasion_of_mem_closingDismissals closing)
  · exact ((dismisses_of_finished finished).during dismissal here).scope_eq handedBack

/-- If the tests themselves are fine, the shutdown goes well exactly if no hook fails but of
targets that are handed back. -/
theorem shutdown_eq_ok_iff
    (fine : ∀ result ∈ results, result.outcome.isPassed ∨ result.outcome.isSkipped) :
    last.pool.shutdown.1 = .ok () ↔
      ∀ dismissal ∈ suite.dismissals pool, dismissal.Failed → dismissal.occasion = .handedBack := by
  have untold : ¬∃ result ∈ results, result.outcome.isEnvironmentError = true := by
    rintro ⟨result, here, environment⟩
    have held := (TestOutcome.isPassed_or_isSkipped_iff.mp (fine result here)).2
    exact Bool.false_ne_true (held.symm.trans environment)
  rw [show last.pool.shutdown.1 = .ok () ↔ _ from teardownAll_eq_ok_iff,
    dismissals_of_finished finished]
  constructor
  · intro well dismissal here failed
    rcases List.mem_append.mp here with closing | here
    · exact absurd failed (well dismissal closing)
    · exact ((dismisses_of_finished finished).during dismissal here).handedBack untold failed
  · intro handedBack dismissal closing failed
    have occasion := handedBack dismissal (List.mem_append_left _ closing) failed
    cases occasion.symm.trans (occasion_of_mem_closingDismissals closing)

end Finished

/-- When a run comes to a report, its ledger has each constructed target once, and only in
test scope are targets handed back.  The report is one of success exactly if every test
passed or was held back and no hook failed but of targets that were handed back. -/
theorem run_succeeds_iff (suite : Suite σ) (scope : Scope) (factory : Factory σ) (world : σ)
    (report : SuiteReport)
    (reported : (suite.run (.start scope factory world)).1 = .ok report) :
    let pool := Pool.start scope factory world
    let ran := suite.run pool
    let ledger := suite.dismissals pool
    Dismissal.numbers ledger = ran.2.site.tornDown ∧
      (Dismissal.numbers ledger).Perm (List.range ran.2.site.constructed) ∧
      (∀ dismissal ∈ ledger, dismissal.occasion = .handedBack → scope = .perTest) ∧
      (report.success = true ↔
        (∀ result ∈ report.results, result.outcome.isPassed ∨ result.outcome.isSkipped) ∧
          ∀ dismissal ∈ ledger, dismissal.Failed → dismissal.occasion = .handedBack) := by
  intro pool ran ledger
  let first : Progress σ := { pool }
  have begun : first.pool.Accounts [] := Pool.accounts_start scope factory world
  rcases accounts_runTests suite.preflight suite.tests begun with ⟨built, accounts⟩
  rcases finished : runTests suite.preflight suite.tests first with ⟨ended, last⟩
  rw [finished] at accounts
  cases ended with
  | error payload =>
      rw [run, finished] at reported
      cases reported
  | ok results =>
      rcases run_of_finished finished with ⟨⟨_, reportedToo, rfl, quiet⟩, closed⟩
      cases reported.symm.trans reportedToo
      have numbers_eq : Dismissal.numbers ledger = ran.2.site.tornDown :=
        ((numbers_of_finished finished).trans (List.append_nil _)).symm
      have each_once : ran.2.site.tornDown.Perm (List.range ran.2.site.constructed) := by
        rw [show ran.2 = _ from closed]
        exact accounts.shutdown_leaves.2
      refine ⟨numbers_eq, numbers_eq ▸ each_once, ?_, ?_⟩
      · exact fun dismissal here => perTest_of_handedBack finished here
      · rw [SuiteReport.success_iff, quiet]
        exact and_congr_right fun fine => shutdown_eq_ok_iff finished fine

/-- The backend of targets whose hooks fail. -/
def faultyHooks : Factory Unit where
  name := "board"
  create := pure { name := "board", teardown := some (throw (.internal "stuck")) }

/-- A suite whose only test passes. -/
def onePasses : Suite Unit where
  name := "one passes"
  tests := [{ name := "passes", body := fun _ world => (.started [], world) }]

/-- A hook that fails in the end is a failure of the run. -/
theorem run_succeeds_iff_onePasses :
    let ran := onePasses.run (.start .session faultyHooks ())
    ∃ report, ran.1 = .ok report ∧ report.passed = 1 ∧ report.success = false := by
  intro ran
  rcases run_succeeds_iff onePasses .session faultyHooks () _ rfl with ⟨-, -, -, succeeds⟩
  refine ⟨_, rfl, rfl, ?_⟩
  rw [← Bool.not_eq_true]
  intro success
  have handedBack := (succeeds.mp success).2 _ List.mem_cons_self ⟨_, rfl⟩
  cases handedBack

/-- When a target is handed back its hook can fail, and the run is one of success. -/
theorem success_of_faultyHooks :
    let pool := Pool.start .perTest faultyHooks ()
    (∃ report, (onePasses.run pool).1 = .ok report ∧ report.success = true) ∧
      ∃ dismissal ∈ onePasses.dismissals pool,
        dismissal.target.id = 0 ∧ dismissal.occasion = .handedBack ∧
          dismissal.result = .error (.environment "board" "Internal error: stuck") :=
  ⟨⟨_, rfl, rfl⟩, _, List.mem_cons_self, rfl, rfl, rfl⟩

end Suite

end Testbed
