import Testbed.Octets
import Testbed.Time.Span

/-!
# Processes

This file supplies processes as their surroundings see them: what they write and
when, and how they end.  A process ends by itself after some time or stays until
a signal ends it; a stubborn one ignores the signal that asks it to end.
-/

namespace Testbed

/-! ## Exit statuses -/

/-- How a process ended. -/
inductive ExitStatus where
  | code (number : Nat)
  | signal (number : Nat)
  deriving DecidableEq, Repr, Inhabited

namespace ExitStatus

/-- The names of signals. -/
def signalNames : List (Nat × String) :=
  [(1, "SIGHUP"), (2, "SIGINT"), (3, "SIGQUIT"), (4, "SIGILL"), (5, "SIGTRAP"),
   (6, "SIGABRT"), (7, "SIGBUS"), (8, "SIGFPE"), (9, "SIGKILL"), (10, "SIGUSR1"),
   (11, "SIGSEGV"), (12, "SIGUSR2"), (13, "SIGPIPE"), (14, "SIGALRM"), (15, "SIGTERM")]

/-- The text of a status; a signal is shown with its name, if it has one. -/
def render : ExitStatus → String
  | code number => "exit status: " ++ toString number
  | signal number =>
      "signal: " ++ toString number
        ++ match signalNames.lookup number with
          | some name => " (" ++ name ++ ")"
          | none => ""

/-- Whether the process ended with the exit code 0. -/
def success (status : ExitStatus) : Bool :=
  status = code 0

/-- The exit code, unless a signal ended the process. -/
def code? : ExitStatus → Option Int
  | code number => some number
  | signal _ => none

/-- The exit code, or -1 if a signal ended the process. -/
def codeOrNegative (status : ExitStatus) : Int :=
  status.code?.getD (-1)

end ExitStatus

/-! ## Processes -/

/-- Something written, and when after the start. -/
structure Emission where
  time : Span := .zero
  /-- Whether it was written to the error output. -/
  isError : Bool := false
  data : Octets
  deriving DecidableEq, Repr

/-- How a process ends if it is left alone. -/
inductive Ending where
  | exits (status : ExitStatus) (after : Span)
  | stays (stubborn : Bool)
  deriving DecidableEq, Repr

/-- A process that has been started. -/
structure Process where
  startedAt : Span
  emissions : List Emission := []
  ending : Ending
  /-- Whether a signal has ended it. -/
  isKilled : Bool := false
  deriving DecidableEq, Repr

namespace Process

/-- The status of a process that has ended by some time. -/
def status? (process : Process) (now : Span) : Option ExitStatus :=
  match process.ending with
  | .exits status after =>
      if process.startedAt + after ≤ now then some status else none
  | .stays _ => none

/-- Whether the process has not ended by some time. -/
def isRunning (process : Process) (now : Span) : Bool :=
  !process.isKilled && (process.status? now).isNone

/-- What was written to an output by some time. -/
def written (process : Process) (isError : Bool) (now : Span) : Octets :=
  (process.emissions.filter fun emission =>
    emission.isError == isError && decide (process.startedAt + emission.time ≤ now)).flatMap
      (·.data)

/-- Everything that is written to an output. -/
def allWritten (process : Process) (isError : Bool) : Octets :=
  (process.emissions.filter (·.isError == isError)).flatMap (·.data)

end Process

end Testbed
