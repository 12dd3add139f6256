import Testbed.Pool
import Testbed.Suite.Body
import Testbed.Suite.Preflight

/-!
# Suites

This file supplies suites, which run tests on targets from a pool.  Every test
gets a target; its gate decides whether its body runs; a fresh target is checked
before its first body; and a target that cannot be trusted any more is discarded
before the next test.

A panic while a body runs fails its test.  A panic of the call that starts a body
is not caught and ends the run.
-/

namespace Testbed

/-- A named test and what it requires. -/
structure TestCase (σ : Type) where
  name : String
  gate : Gate := {}
  /-- The time its body may take. -/
  limit : Option Span := none
  body : Target σ → σ → Start σ × σ

/-- How a test ended. -/
inductive TestOutcome where
  | passed
  | failed (reason : String)
  /-- Held back by its gate. -/
  | skipped (missing : List Capability)
  /-- The target could not be provided, or broke under the test. -/
  | environmentError (reason : String)
  deriving DecidableEq, Repr

/-- How a test ended, and on which target. -/
structure TestResult where
  name : String
  outcome : TestOutcome
  /-- The target the test was given. -/
  target : Option Nat
  deriving DecidableEq, Repr

namespace TestOutcome

/-- Whether the test passed. -/
def isPassed : TestOutcome → Bool
  | passed => true
  | _ => false

/-- Whether the test failed. -/
def isFailed : TestOutcome → Bool
  | failed _ => true
  | _ => false

/-- Whether the test was held back. -/
def isSkipped : TestOutcome → Bool
  | skipped _ => true
  | _ => false

/-- Whether the environment failed. -/
def isEnvironmentError : TestOutcome → Bool
  | environmentError _ => true
  | _ => false

end TestOutcome

/-- Tests in order, and the checks made of fresh targets. -/
structure Suite (σ : Type) where
  name : String
  tests : List (TestCase σ) := []
  preflight : Option Preflight := none

/-- What a run of a suite reports. -/
structure SuiteReport where
  name : String
  scope : Scope
  results : List TestResult
  /-- The first failure of tearing targets down after the run. -/
  teardownError : Option String
  deriving DecidableEq, Repr

namespace SuiteReport

/-- How many results have an outcome of some kind. -/
def count (report : SuiteReport) (kind : TestOutcome → Bool) : Nat :=
  (report.results.filter fun result => kind result.outcome).length

/-- How many tests there were. -/
def total (report : SuiteReport) : Nat :=
  report.results.length

/-- How many tests passed. -/
def passed (report : SuiteReport) : Nat :=
  report.count TestOutcome.isPassed

/-- How many tests failed. -/
def failed (report : SuiteReport) : Nat :=
  report.count TestOutcome.isFailed

/-- How many tests were held back. -/
def skipped (report : SuiteReport) : Nat :=
  report.count TestOutcome.isSkipped

/-- How many tests the environment failed. -/
def environmentErrors (report : SuiteReport) : Nat :=
  report.count TestOutcome.isEnvironmentError

/-- Whether no test failed and the environment held up. -/
def success (report : SuiteReport) : Bool :=
  report.failed = 0 ∧ report.environmentErrors = 0 ∧ report.teardownError = none

end SuiteReport

/-- Drop a target that cannot be trusted any more. -/
def Pool.discard {σ : Type} (pool : Pool σ) (target : Target σ) : Result Unit × Pool σ :=
  match pool.scope with
  | .session => pool.invalidate
  | .perTest => pool.release target

namespace Suite

variable {σ : Type}

/-- A run under way: the pool, and the targets that have been checked. -/
structure Progress (σ : Type) where
  pool : Pool σ
  checked : List Nat := []

namespace Progress

/-- Perform an action in the surroundings of the pool. -/
def perform {α : Type} (progress : Progress σ) (action : Action σ α) :
    Result α × Progress σ :=
  let (result, site) := progress.pool.site.perform action
  (result, { progress with pool := { progress.pool with site } })

/-- Hand a target back; what goes wrong is only logged. -/
def release (progress : Progress σ) (target : Target σ) : Progress σ :=
  { progress with pool := (progress.pool.release target).2 }

/-- Drop a target; what goes wrong is only logged. -/
def discard (progress : Progress σ) (target : Target σ) : Progress σ :=
  { progress with pool := (progress.pool.discard target).2 }

end Progress

/-- Check a target, unless that has been done. -/
def checkTarget (preflight : Option Preflight) (progress : Progress σ)
    (target : Target σ) : Result Unit × Progress σ :=
  match preflight with
  | none => (.ok (), progress)
  | some preflight =>
      if progress.checked.contains target.id then
        (.ok (), progress)
      else
        match progress.perform (preflight.run target) with
        | (.ok (), progress) =>
            (.ok (), { progress with checked := target.id :: progress.checked })
        | (.error error, progress) => (.error error, progress)

/-- Run the body of a test on a target, or report the panic of its start. -/
def runBody (test : TestCase σ) (target : Target σ) (site : Site σ) :
    Except PanicPayload (Result Unit) × Site σ :=
  match test.body target site.world with
  | (.panicked payload, world) => (.error payload, { site with world })
  | (.started turns, world) =>
      let (result, site) := runTurns target test.limit .zero turns { site with world }
      (.ok result, site)

/-- Settle a test whose body has ended, and its target. -/
def settle (progress : Progress σ) (target : Target σ) :
    Result Unit → TestOutcome × Progress σ
  | .ok () => (.passed, progress.release target)
  | .error error =>
      if error.isEnvironment then
        (.environmentError error.message, progress.discard target)
      else
        (.failed error.message, progress.release target)

/-- Run a test on a target that its gate accepts. -/
def runOn (preflight : Option Preflight) (test : TestCase σ) (progress : Progress σ)
    (target : Target σ) : Except PanicPayload TestOutcome × Progress σ :=
  match checkTarget preflight progress target with
  | (.error error, progress) =>
      (.ok (.environmentError error.message), progress.discard target)
  | (.ok (), progress) =>
      match runBody test target progress.pool.site with
      | (.error payload, site) =>
          (.error payload, { progress with pool := { progress.pool with site } })
      | (.ok result, site) =>
          let progress := { progress with pool := { progress.pool with site } }
          let (outcome, progress) := settle progress target result
          (.ok outcome, progress)

/-- Run a test. -/
def runTest (preflight : Option Preflight) (test : TestCase σ) (progress : Progress σ) :
    Except PanicPayload TestResult × Progress σ :=
  match progress.pool.acquire with
  | (.error error, pool) =>
      (.ok ⟨test.name, .environmentError error.message, none⟩, { progress with pool })
  | (.ok target, pool) =>
      let progress := { progress with pool }
      match test.gate.evaluate target.capabilities with
      | .skip missing =>
          (.ok ⟨test.name, .skipped missing, some target.id⟩, progress.release target)
      | .run =>
          let (outcome, progress) := runOn preflight test progress target
          (outcome.map fun outcome => ⟨test.name, outcome, some target.id⟩, progress)

/-- Run tests in order. -/
def runTests (preflight : Option Preflight) :
    List (TestCase σ) → Progress σ → Except PanicPayload (List TestResult) × Progress σ
  | [], progress => (.ok [], progress)
  | test :: rest, progress =>
      match runTest preflight test progress with
      | (.error payload, progress) => (.error payload, progress)
      | (.ok result, progress) =>
          let (results, progress) := runTests preflight rest progress
          (results.map (result :: ·), progress)

/-- Run every test in order, then shut the pool down.  A panic that is not caught
ends the run at once. -/
def run (suite : Suite σ) (pool : Pool σ) : Except PanicPayload SuiteReport × Pool σ :=
  match runTests suite.preflight suite.tests { pool } with
  | (.error payload, progress) => (.error payload, progress.pool)
  | (.ok results, progress) =>
      let (closed, pool) := progress.pool.shutdown
      let teardownError :=
        match closed with
        | .ok () => none
        | .error error => some error.message
      (.ok { name := suite.name, scope := pool.scope, results, teardownError }, pool)

end Suite

end Testbed
