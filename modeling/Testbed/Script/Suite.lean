import Testbed.Script.Pool
import Testbed.Suite

/-!
# Suites in scripts

This file supplies suites whose tests are written as scripts, and the documents
that report on their runs.
-/

namespace Testbed.Script

/-! ## Suites -/

/-- A step of a test as a turn of its body; only what it changes counts, not what it
gives. -/
def bodyTurn (target : Target Rehearsal.Stage) (step : Document) :
    Turn Rehearsal.Stage :=
  match asItems step with
  | [.text "fail", error] => .finish (.fail (readError error))
  | [.text "panic", message] => .finish (.panic (.message (asText message)))
  | [.text "panic_static"] => .finish (.panic (.message "static message"))
  | [.text "panic_other"] => .finish (.panic .other)
  | [.text "sleep", millis] => .sleep (.ofMillis (asNat millis))
  | [.text "teardown"] => .finish .tearDown
  | [.text "is_torn_down"] => .finish .goOn
  | [.text "expect_exit", command, code] => .perform do
      let output ← target.execute (asText command)
      if output.exitCode ≠ asInt code then
        throw (.internal ("exit code " ++ toString output.exitCode))
  | _ => .perform (targetAction target step)

/-- A test whose body leaves a line in the journal and then makes its steps. -/
def readTest (document : Document) : TestCase Rehearsal.Stage :=
  let name := asText (field document "name")
  let requires :=
    match field? document "gate" with
    | some names => (asItems names).map asText
    | none => texts document "requires"
  { name
    gate := .ofList requires
    limit := (field? document "timeout_ms").map fun millis => .ofMillis (asNat millis)
    body := fun target stage =>
      (.started (.perform (Rehearsal.note ("body " ++ name))
        :: (items document "body").map (bodyTurn target)), stage) }

/-- An outcome in words. -/
def outcomeAnswer : TestOutcome → List (String × Document)
  | .passed => [("outcome", .text "passed")]
  | .failed reason => [("outcome", .text "failed"), ("reason", .text reason)]
  | .skipped missing => [("outcome", .text "skipped"), ("missing", .texts missing)]
  | .environmentError reason =>
      [("outcome", .text "environment_error"), ("reason", .text reason)]

/-- The result of a test. -/
def resultAnswer (result : TestResult) : Document :=
  .table
    ([("name", .text result.name),
      ("target", match result.target with
        | some id => .nat id
        | none => .null)] ++ outcomeAnswer result.outcome)

/-- The report on a run. -/
def reportAnswer (report : SuiteReport) : Document :=
  .table
    [("name", .text report.name), ("scope", .text report.scope.name),
     ("total", .nat report.total), ("passed", .nat report.passed),
     ("failed", .nat report.failed), ("skipped", .nat report.skipped),
     ("environment_errors", .nat report.environmentErrors),
     ("success", .bool report.success),
     ("teardown_error", .ofText? report.teardownError),
     ("results", .list (report.results.map resultAnswer))]

end Testbed.Script
