import Testbed.Target

/-!
# Checks of fresh targets

This file supplies the checks that a suite makes of a target before its first
test.  A check is made only if the target declares the capability it needs; the
first that fails is a failure of the environment.
-/

namespace Testbed

/-- What is checked of a fresh target. -/
structure Preflight where
  /-- How long the target gets to answer. -/
  pingTimeout : Span := .ofSeconds 10
  /-- How the session for the command is opened. -/
  ssh : SessionOptions :=
    { connectTimeout := .ofSeconds 5, retries := 5, retryInterval := .ofSeconds 2 }
  /-- The command, which has to exit with 0. -/
  sshCommand : String := "echo Qnx_S-core!"
  deriving DecidableEq, Repr

namespace Preflight

variable {σ : Type}

/-- Check that the target answers in time. -/
def checkPing (preflight : Preflight) (target : Target σ) : Action σ Unit :=
  (target.ping { timeout := preflight.pingTimeout }).mapFailure fun error =>
    .environment target.name
      ("target is not pingable within expected time frame: " ++ error.message)

/-- Check that the command exits with 0 in a session. -/
def checkSession (preflight : Preflight) (target : Target σ) : Action σ Unit := do
  let exitCode ←
    (target.withSession preflight.ssh (·.exitCode preflight.sshCommand)).mapFailure
      fun error => .environment target.name ("SSH check failed: " ++ error.message)
  if exitCode ≠ 0 then
    throw (.environment target.name
      ("running SSH command on the target failed with exit code " ++ toString exitCode))

/-- Make every check that applies to a target. -/
def run (preflight : Preflight) (target : Target σ) : Action σ Unit := do
  if target.has Capability.ping then
    preflight.checkPing target
  if target.has Capability.ssh then
    preflight.checkSession target

/-- Read checks; what is left out has its default. -/
def read : Document.Reader Preflight := fun format document => do
  let standard : Preflight := {}
  let record ←
    Document.Record.read? false ["ping_timeout", "ssh", "ssh_command"] format document
  let pingTimeout ←
    record.orDefault "ping_timeout" Document.Reader.span standard.pingTimeout
  let ssh ← record.orDefault "ssh" SessionOptions.read standard.ssh
  let sshCommand ← record.orDefault "ssh_command" Document.Reader.text standard.sshCommand
  pure { pingTimeout, ssh, sshCommand }

/-- The checks as a document. -/
def toDocument (preflight : Preflight) : Document :=
  .table
    [("ping_timeout", .ofSpan preflight.pingTimeout),
     ("ssh", preflight.ssh.toDocument),
     ("ssh_command", .text preflight.sshCommand)]

end Preflight

end Testbed
