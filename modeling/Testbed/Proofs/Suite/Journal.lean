import Testbed.Suite

/-!
# Journals of runs

This file supplies the run of a suite with a journal, in which it notes what it does for
each test at the time it does it.  The notes change nothing: `runTests_eq` says that the
run with a journal is the run.

A journal is a list of events with the numbers of the tests that they are for, the latest
first.  So what stands behind an entry in the list was done before it.
-/

namespace Testbed

variable {σ : Type}

/-! ## Bodies -/

/-- What becomes of a body. -/
inductive Fate where
  /-- The call that starts it panics. -/
  | stillborn (payload : PanicPayload)
  /-- It panics in one of its turns. -/
  | panicked (payload : PanicPayload)
  /-- It is given up when its time is over. -/
  | overran (limit : Span)
  | returned (result : Result Unit)

/-- What a run is told of the fate of a body; a panic that is not caught ends the run. -/
def Fate.caught : Fate → Except PanicPayload (Result Unit)
  | stillborn payload => .error payload
  | panicked payload => .ok (.error (panicError payload))
  | overran limit => .ok (.error (.timeout limit))
  | returned result => .ok result

/-- Follow the turns of a body, `elapsed` after its start, to what becomes of it. -/
def followTurns (target : Target σ) (limit : Option Span) :
    Span → List (Turn σ) → Site σ → Fate × Site σ
  | _, [], site => (.returned (.ok ()), site)
  | elapsed, turn :: rest, site =>
      let elapsed := elapsed + turn.delay
      match limit.filter (· < elapsed) with
      | some limit => (.overran limit, site)
      | none =>
          let (turnEnd, world) := turn.act site.world
          let site := { site with world }
          match turnEnd with
          | .goOn => followTurns target limit elapsed rest site
          | .tearDown =>
              let (result, site) := site.teardown target
              match result with
              | .ok () => followTurns target limit elapsed rest site
              | .error error => (.returned (.error error), site)
          | .fail error => (.returned (.error error), site)
          | .panic payload => (.panicked payload, site)

theorem caught_followTurns (target : Target σ) (limit : Option Span) (elapsed : Span)
    (turns : List (Turn σ)) (site : Site σ) :
    let followed := followTurns target limit elapsed turns site
    followed.1.caught = .ok (runTurns target limit elapsed turns site).1 ∧
      followed.2 = (runTurns target limit elapsed turns site).2 := by
  induction turns generalizing elapsed site with
  | nil => exact ⟨rfl, rfl⟩
  | cons turn rest ih =>
      rw [followTurns, runTurns]
      cases limit.filter (· < elapsed + turn.delay) with
      | some limit => exact ⟨rfl, rfl⟩
      | none =>
        rcases turn.act site.world with ⟨turnEnd, world⟩
        cases turnEnd with
        | goOn => exact ih _ _
        | tearDown =>
            rcases outcome : Site.teardown { site with world } target with ⟨result, tornDown⟩
            dsimp only
            rw [outcome]
            cases result with
            | ok _ => exact ih _ _
            | error error => exact ⟨rfl, rfl⟩
        | fail error => exact ⟨rfl, rfl⟩
        | panic payload => exact ⟨rfl, rfl⟩

/-- Follow the body of a test on a target from its start. -/
def followBody (test : TestCase σ) (target : Target σ) (site : Site σ) : Fate × Site σ :=
  match test.body target site.world with
  | (.panicked payload, world) => (.stillborn payload, { site with world })
  | (.started turns, world) => followTurns target test.limit .zero turns { site with world }

theorem runBody_eq (test : TestCase σ) (target : Target σ) (site : Site σ) :
    Suite.runBody test target site =
      ((followBody test target site).1.caught, (followBody test target site).2) := by
  rw [Suite.runBody, followBody]
  rcases test.body target site.world with ⟨start, world⟩
  cases start with
  | panicked payload => rfl
  | started turns =>
      rcases caught_followTurns target test.limit .zero turns { site with world } with
        ⟨fate, later⟩
      exact Prod.ext fate.symm later.symm

namespace Suite

/-! ## Events -/

/-- Something that a run does for a test. -/
inductive Event (σ : Type) where
  /-- A target is asked for, when those of some numbers have been torn down. -/
  | asked (tornDown : List Nat) (given : Result (Target σ))
  /-- A target is checked. -/
  | checked (target : Target σ) (result : Result Unit)
  /-- The body of the test is started on a target. -/
  | started (target : Target σ)
  /-- Something has become of the body. -/
  | ended (target : Target σ) (fate : Fate)

/-- A run under way for a test of some number, and what it has done so far. -/
structure Chronicle (σ : Type) where
  progress : Progress σ
  number : Nat := 0
  /-- What was done and for which test, the latest first. -/
  journal : List (Nat × Event σ) := []

namespace Chronicle

/-- Note what has been done. -/
def note (chronicle : Chronicle σ) (event : Event σ) : Chronicle σ :=
  { chronicle with journal := (chronicle.number, event) :: chronicle.journal }

/-- Go on from where the run has come to. -/
def goOn (chronicle : Chronicle σ) (progress : Progress σ) : Chronicle σ :=
  { chronicle with progress }

/-- Turn to the next test. -/
def next (chronicle : Chronicle σ) : Chronicle σ :=
  { chronicle with number := chronicle.number + 1 }

/-- Ask for a target. -/
def acquire (chronicle : Chronicle σ) : Result (Target σ) × Chronicle σ :=
  let (given, pool) := chronicle.progress.pool.acquire
  (given, (chronicle.goOn { chronicle.progress with pool }).note
    (.asked chronicle.progress.pool.site.tornDown given))

/-- Check a target, unless that has been done. -/
def checkTarget (preflight : Option Preflight) (chronicle : Chronicle σ) (target : Target σ) :
    Result Unit × Chronicle σ :=
  match preflight with
  | none => (.ok (), chronicle)
  | some preflight =>
      if chronicle.progress.checked.contains target.id then
        (.ok (), chronicle)
      else
        match chronicle.progress.perform (preflight.run target) with
        | (.ok (), progress) =>
            (.ok (), (chronicle.goOn
              { progress with checked := target.id :: progress.checked }).note
                (.checked target (.ok ())))
        | (.error error, progress) =>
            (.error error, (chronicle.goOn progress).note (.checked target (.error error)))

/-- Run the body of a test on a target. -/
def runBody (test : TestCase σ) (chronicle : Chronicle σ) (target : Target σ) :
    Fate × Chronicle σ :=
  let begun := chronicle.note (.started target)
  let (fate, site) := followBody test target begun.progress.pool.site
  (fate, (begun.goOn { begun.progress with pool := { begun.progress.pool with site } }).note
    (.ended target fate))

/-- Run the body of a test on a target and settle both. -/
def runAndSettle (test : TestCase σ) (chronicle : Chronicle σ) (target : Target σ) :
    Except PanicPayload TestOutcome × Chronicle σ :=
  let (fate, chronicle) := chronicle.runBody test target
  match fate.caught with
  | .error payload => (.error payload, chronicle)
  | .ok result =>
      let (outcome, progress) := settle chronicle.progress target result
      (.ok outcome, chronicle.goOn progress)

/-- Run a test on a target that its gate accepts. -/
def runOn (preflight : Option Preflight) (test : TestCase σ) (chronicle : Chronicle σ)
    (target : Target σ) : Except PanicPayload TestOutcome × Chronicle σ :=
  match chronicle.checkTarget preflight target with
  | (.error error, chronicle) =>
      (.ok (.environmentError error.message),
        chronicle.goOn (chronicle.progress.discard target))
  | (.ok (), chronicle) => chronicle.runAndSettle test target

/-- Run a test. -/
def runTest (preflight : Option Preflight) (test : TestCase σ) (chronicle : Chronicle σ) :
    Except PanicPayload TestResult × Chronicle σ :=
  match chronicle.acquire with
  | (.error error, chronicle) =>
      (.ok ⟨test.name, .environmentError error.message, none⟩, chronicle)
  | (.ok target, chronicle) =>
      match test.gate.evaluate target.capabilities with
      | .skip missing =>
          (.ok ⟨test.name, .skipped missing, some target.id⟩,
            chronicle.goOn (chronicle.progress.release target))
      | .run =>
          let (outcome, chronicle) := chronicle.runOn preflight test target
          (outcome.map fun outcome => ⟨test.name, outcome, some target.id⟩, chronicle)

/-- Run tests in order. -/
def runTests (preflight : Option Preflight) :
    List (TestCase σ) → Chronicle σ → Except PanicPayload (List TestResult) × Chronicle σ
  | [], chronicle => (.ok [], chronicle)
  | test :: rest, chronicle =>
      match chronicle.runTest preflight test with
      | (.error payload, chronicle) => (.error payload, chronicle)
      | (.ok result, chronicle) =>
          let (results, chronicle) := runTests preflight rest chronicle.next
          (results.map (result :: ·), chronicle)

/-! ## Runs without their journals -/

section Erasure

variable (preflight : Option Preflight) (test : TestCase σ) (chronicle : Chronicle σ)
variable (target : Target σ)

theorem checkTarget_eq :
    Suite.checkTarget preflight chronicle.progress target =
      ((chronicle.checkTarget preflight target).1,
        (chronicle.checkTarget preflight target).2.progress) := by
  cases preflight with
  | none => rfl
  | some preflight =>
      rw [Suite.checkTarget, checkTarget]
      split
      next => rfl
      next =>
        rcases chronicle.progress.perform (preflight.run target) with ⟨result, progress⟩
        cases result <;> rfl

theorem runOn_eq :
    Suite.runOn preflight test chronicle.progress target =
      ((chronicle.runOn preflight test target).1,
        (chronicle.runOn preflight test target).2.progress) := by
  rw [Suite.runOn, runOn, checkTarget_eq]
  rcases chronicle.checkTarget preflight target with ⟨result, chronicle⟩
  cases result with
  | error error => rfl
  | ok _ =>
      dsimp only
      rw [runBody_eq, runAndSettle, runBody]
      dsimp only [note]
      cases (followBody test target chronicle.progress.pool.site).1.caught <;> rfl

theorem runTest_eq :
    Suite.runTest preflight test chronicle.progress =
      ((chronicle.runTest preflight test).1,
        (chronicle.runTest preflight test).2.progress) := by
  rw [Suite.runTest, runTest, acquire]
  rcases chronicle.progress.pool.acquire with ⟨given, pool⟩
  cases given with
  | error error => rfl
  | ok target =>
      dsimp only
      cases test.gate.evaluate target.capabilities with
      | skip missing => rfl
      | run =>
          have ran := runOn_eq preflight test
            ((chronicle.goOn { chronicle.progress with pool }).note
              (.asked chronicle.progress.pool.site.tornDown (.ok target))) target
          dsimp only
          rw [show Suite.runOn preflight test { chronicle.progress with pool } target = _ from ran]

/-- A run that notes what it does is the run. -/
theorem runTests_eq (tests : List (TestCase σ)) :
    Suite.runTests preflight tests chronicle.progress =
      ((chronicle.runTests preflight tests).1,
        (chronicle.runTests preflight tests).2.progress) := by
  induction tests generalizing chronicle with
  | nil => rfl
  | cons test rest ih =>
      rw [Suite.runTests, runTests, runTest_eq]
      rcases chronicle.runTest preflight test with ⟨result, chronicle⟩
      cases result with
      | error payload => rfl
      | ok result =>
          dsimp only
          rw [show chronicle.progress = chronicle.next.progress from rfl, ih]

end Erasure

end Chronicle

/-- A run of the tests of a suite that notes what it does. -/
def chronicle (suite : Suite σ) (pool : Pool σ) :
    Except PanicPayload (List TestResult) × Chronicle σ :=
  Chronicle.runTests suite.preflight suite.tests { progress := { pool } }

/-- What a run of a suite does and for which test, the latest first. -/
def journal (suite : Suite σ) (pool : Pool σ) : List (Nat × Event σ) :=
  (suite.chronicle pool).2.journal

theorem runTests_eq_chronicle (suite : Suite σ) (pool : Pool σ) :
    runTests suite.preflight suite.tests { pool } =
      ((suite.chronicle pool).1, (suite.chronicle pool).2.progress) :=
  Chronicle.runTests_eq suite.preflight { progress := { pool } } suite.tests

end Suite

end Testbed
