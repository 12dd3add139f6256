import Testbed.Time.Span

/-!
# Failures

This file supplies the kinds of failure that operations of the test bed report.
A capability that a target lacks is not among the reasons a test fails: it leads
to a skip, decided before anything is attempted.

Failures of the environment, as opposed to failures of a test, are singled out
by `Error.isEnvironment`.
-/

namespace Testbed

/-- Why an operation failed. -/
inductive Error where
  /-- An operating-system failure. -/
  | io (reason : String)
  /-- A JSON document that does not describe what was asked of it. -/
  | json (reason : String)
  /-- A TOML document that does not describe what was asked of it. -/
  | toml (reason : String)
  /-- Construction, check or teardown of a target failed. -/
  | environment (target reason : String)
  /-- A capture could not be bound, connected or spawned. -/
  | captureStart (reason : String)
  | unsupported (capability : String)
  | invalidQuery (reason : String)
  | reachabilityTimeout (subject : String) (elapsed allowed : Span)
  | connection (reason : String)
  | commandFailed (command reason : String)
  | invalidConfig (reason : String)
  | notFound (resource : String)
  | timeout (limit : Span)
  | internal (reason : String)
  deriving DecidableEq, Repr, Inhabited

namespace Error

/-- The text shown for a failure. -/
def message : Error → String
  | io reason => "IO error: " ++ reason
  | json reason => "Serialization error: " ++ reason
  | toml reason => "Configuration parse error: " ++ reason
  | environment target reason =>
      "Environment error on target " ++ target ++ ": " ++ reason
  | captureStart reason => "Capture start error: " ++ reason
  | unsupported capability =>
      "Target does not support capability '" ++ capability ++ "'"
  | invalidQuery reason => "Invalid query: " ++ reason
  | reachabilityTimeout subject elapsed allowed =>
      subject ++ " not reachable after " ++ elapsed.render
        ++ " (timeout " ++ allowed.render ++ ")"
  | connection reason => "Connection error: " ++ reason
  | commandFailed command reason =>
      "Command '" ++ command ++ "' failed: " ++ reason
  | invalidConfig reason => "Invalid configuration: " ++ reason
  | notFound resource => "Resource not found: " ++ resource
  | timeout limit => "Operation timeout after " ++ limit.render
  | internal reason => "Internal error: " ++ reason

/-- The text of a failure, followed by that of its cause if it has one of its own. -/
def report (error : Error) : String :=
  match error with
  | io reason | json reason | toml reason => error.message ++ ": " ++ reason
  | error => error.message

/-- The word for the kind of a failure. -/
def kind : Error → String
  | io _ => "Io"
  | json _ => "Json"
  | toml _ => "Toml"
  | environment .. => "Environment"
  | captureStart _ => "CaptureStart"
  | unsupported _ => "Unsupported"
  | invalidQuery _ => "InvalidQuery"
  | reachabilityTimeout .. => "ReachabilityTimeout"
  | connection _ => "Connection"
  | commandFailed .. => "CommandFailed"
  | invalidConfig _ => "InvalidConfig"
  | notFound _ => "NotFound"
  | timeout _ => "Timeout"
  | internal _ => "Internal"

/-- Whether the environment is to blame and not the test. -/
def isEnvironment : Error → Bool
  | environment .. | captureStart .. | reachabilityTimeout .. => true
  | _ => false

end Error

/-- The outcome of an operation that can fail. -/
abbrev Result (α : Type) :=
  Except Error α

end Testbed
