import Testbed.Proofs.Suite.Advance

/-!
# Runs of suites

This file supplies what a run of a suite leaves behind, however constructions, checks,
bodies and hooks go.  Whatever a test does, the accounts of the pool stay right, so that
shutting the pool down after the last test tears down whatever stands.

A test whose body can be started gets a result on each of the ways it can end.
-/

namespace Testbed

variable {σ : Type}

/-- Starting the body does not panic, wherever it is started. -/
def TestCase.Starts (test : TestCase σ) : Prop :=
  ∀ target world, ∃ turns later, test.body target world = (.started turns, later)

namespace Suite

variable {progress : Progress σ} {built : List (Target σ)}
variable {test : TestCase σ} (preflight : Option Preflight)

/-! ## The accounts of the pool -/

/-- A test may construct a target. -/
theorem accounts_runTest (test : TestCase σ) (accounts : progress.pool.Accounts built) :
    ∃ built', (runTest preflight test progress).2.pool.Accounts built' := by
  let chronicle : Chronicle σ := { progress }
  have begun : chronicle.progress.pool.Accounts built := accounts
  rcases Chronicle.exists_visit begun preflight test with ⟨built', events, -, -, advances, -⟩
  rw [show runTest preflight test progress = _ from chronicle.runTest_eq preflight test]
  exact ⟨built', advances.accounts⟩

theorem accounts_runTests (tests : List (TestCase σ)) (accounts : progress.pool.Accounts built) :
    ∃ built', (runTests preflight tests progress).2.pool.Accounts built' := by
  induction tests generalizing progress built with
  | nil => exact ⟨built, accounts⟩
  | cons test rest ih =>
      rcases accounts_runTest preflight test accounts with ⟨_, later⟩
      rw [runTests]
      split
      next outcome =>
          rw [outcome] at later
          exact ⟨_, later⟩
      next outcome =>
          rw [outcome] at later
          exact ih later

/-! ## Results -/

theorem runBody_of_starts (starts : test.Starts) (target : Target σ) (site : Site σ) :
    ∃ result, (runBody test target site).1 = .ok result := by
  rcases starts target site.world with ⟨turns, later, started⟩
  rw [runBody, started]
  exact ⟨_, rfl⟩

theorem runOn_of_starts (starts : test.Starts) (progress : Progress σ) (target : Target σ) :
    ∃ outcome, (runOn preflight test progress target).1 = .ok outcome := by
  rw [runOn]
  split
  next error _ _ => exact ⟨.environmentError error.message, rfl⟩
  next later _ =>
      rcases runBody_of_starts starts target later.pool.site with ⟨result, ended⟩
      split
      next panicked =>
          rw [panicked] at ended
          cases ended
      next => exact ⟨_, rfl⟩

theorem runTest_of_starts (starts : test.Starts) (progress : Progress σ) :
    ∃ result, (runTest preflight test progress).1 = .ok result ∧ result.name = test.name := by
  rw [runTest]
  split
  next => exact ⟨_, rfl, rfl⟩
  next target pool _ =>
      dsimp only
      split
      next => exact ⟨_, rfl, rfl⟩
      next =>
          rcases runOn_of_starts preflight starts { progress with pool } target with
            ⟨outcome, ended⟩
          rw [ended]
          exact ⟨_, rfl, rfl⟩

theorem runTests_of_starts (tests : List (TestCase σ)) (starts : ∀ test ∈ tests, test.Starts)
    (progress : Progress σ) :
    ∃ results, (runTests preflight tests progress).1 = .ok results ∧
      results.map (·.name) = tests.map (·.name) := by
  induction tests generalizing progress with
  | nil => exact ⟨[], rfl, rfl⟩
  | cons test rest ih =>
      have startsFirst : test.Starts := starts test List.mem_cons_self
      have startsRest : ∀ other ∈ rest, other.Starts :=
        fun other here => starts other (List.mem_cons_of_mem _ here)
      rcases runTest_of_starts preflight startsFirst progress with ⟨result, ended, named⟩
      rw [runTests]
      split
      next panicked =>
          rw [panicked] at ended
          cases ended
      next first later outcome =>
          rw [outcome] at ended
          cases ended
          rcases ih startsRest later with ⟨results, endedRest, namedRest⟩
          refine ⟨result :: results, ?_, ?_⟩
          · dsimp only
            rw [endedRest]
            rfl
          · rw [List.map_cons, List.map_cons, named, namedRest]

end Suite

/-! ## Counts -/

theorem SuiteReport.count_eq_countP (report : SuiteReport) (kind : TestOutcome → Bool) :
    report.count kind = report.results.countP (kind ·.outcome) :=
  List.countP_eq_length_filter.symm

/-- Every result is counted under one of the four kinds of outcome. -/
theorem SuiteReport.total_eq (report : SuiteReport) :
    report.total =
      report.passed + report.failed + report.skipped + report.environmentErrors := by
  rw [total, passed, failed, skipped, environmentErrors]
  simp only [count_eq_countP]
  induction report.results with
  | nil => rfl
  | cons result rest ih =>
      simp only [List.length_cons, List.countP_cons, ih]
      cases result.outcome <;>
        simp only [TestOutcome.isPassed, TestOutcome.isFailed, TestOutcome.isSkipped,
          TestOutcome.isEnvironmentError, Bool.false_eq_true, if_true, if_false] <;>
        omega

namespace Suite

/-- If no body panics when it is started, a run gives one result for each test, in order
and under its name, counts each of them once, leaves no target in service, and has torn
each constructed target down exactly once. -/
theorem run_reports_and_tears_down (suite : Suite σ) (scope : Scope) (factory : Factory σ)
    (world : σ) (starts : ∀ test ∈ suite.tests, test.Starts) :
    let ran := suite.run (.start scope factory world)
    (∃ report, ran.1 = .ok report ∧
      report.results.map (·.name) = suite.tests.map (·.name) ∧
      report.total = suite.tests.length ∧
      report.total =
        report.passed + report.failed + report.skipped + report.environmentErrors ∧
      report.passed = report.results.countP (·.outcome matches .passed) ∧
      report.failed = report.results.countP (·.outcome matches .failed _) ∧
      report.skipped = report.results.countP (·.outcome matches .skipped _) ∧
      report.environmentErrors =
        report.results.countP (·.outcome matches .environmentError _)) ∧
      ran.2.live = [] ∧
      ran.2.site.tornDown.Perm (List.range ran.2.site.constructed) := by
  intro ran
  let first : Progress σ := { pool := .start scope factory world }
  rcases runTests_of_starts suite.preflight suite.tests starts first with ⟨results, ended, named⟩
  have begun : first.pool.Accounts [] := Pool.accounts_start scope factory world
  rcases accounts_runTests suite.preflight suite.tests begun with ⟨built, accounts⟩
  rcases outcome : runTests suite.preflight suite.tests first with ⟨_, last⟩
  rw [outcome] at ended accounts
  cases ended
  have closed : ran.2 = last.pool.shutdown.2 := by
    rw [show ran = suite.run first.pool from rfl, run, outcome]
  constructor
  · refine ⟨_, by rw [show ran = suite.run first.pool from rfl, run, outcome], named, ?_,
      SuiteReport.total_eq _, SuiteReport.count_eq_countP _ _, SuiteReport.count_eq_countP _ _,
      SuiteReport.count_eq_countP _ _, SuiteReport.count_eq_countP _ _⟩
    have lengths := congrArg List.length named
    rw [List.length_map, List.length_map] at lengths
    exact lengths
  · rw [closed]
    constructor
    · rw [accounts.shutdown_eq]
    · exact accounts.shutdown.perm_tornDown fun _ here => accounts.isTornDown_shutdown here

/-- A suite whose bodies pass, panic, overrun their limit, and lose their target. -/
def variousEndings : Suite Nat where
  name := "various endings"
  tests :=
    [{ name := "passes", body := fun _ world => (.started [], world) },
     { name := "panics", body := fun _ world => (.started [.finish (.panic .other)], world) },
     { name := "overruns", limit := some .zero,
       body := fun _ world => (.started [.sleep (.ofSeconds 1)], world) },
     { name := "loses its target",
       body := fun target world =>
         (.started [.finish (.fail (.environment target.name "no answer"))], world) },
     { name := "passes again", body := fun _ world => (.started [.finish .tearDown], world) }]

/-- The backend of targets whose hooks count how often they are called. -/
def countedHooks : Factory Nat where
  name := "board"
  create := pure { name := "board", teardown := some (.change (· + 1)) }

theorem run_reports_and_tears_down_variousEndings :
    let ran := variousEndings.run (.start .session countedHooks 0)
    (∀ test ∈ variousEndings.tests, test.Starts) ∧
      (∃ report, ran.1 = .ok report ∧
        report.results.map (·.name) =
          ["passes", "panics", "overruns", "loses its target", "passes again"] ∧
        report.total = 5) ∧
      ran.2.live = [] ∧ ran.2.site.tornDown.Perm (List.range 2) ∧ ran.2.site.world = 2 := by
  have starts : ∀ test ∈ variousEndings.tests, test.Starts := by
    simp only [variousEndings, List.forall_mem_cons, List.not_mem_nil]
    refine ⟨?_, ?_, ?_, ?_, ?_, fun _ none => none.elim⟩ <;> exact fun _ _ => ⟨_, _, rfl⟩
  rcases run_reports_and_tears_down variousEndings .session countedHooks 0 starts with
    ⟨⟨report, finished, named, total, -⟩, live, tornDown⟩
  exact ⟨starts, ⟨report, finished, named, total⟩, live, tornDown, rfl⟩

end Suite

end Testbed
