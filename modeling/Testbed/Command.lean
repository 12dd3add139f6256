import Testbed.Command.Configuration
import Testbed.Command.Inspection
import Testbed.Command.Traffic

/-!
# The command line

This file supplies the program as a function: from the words it is called with, its
environment and the host to what it prints, its exit code and the host afterwards.
-/

namespace Testbed.Command

/-- What a call of the program leaves behind. -/
structure Answer where
  code : Nat
  output : String := ""
  errorOutput : String := ""
  deriving DecidableEq, Repr

/-- The version of the program. -/
def programVersion : String :=
  "0.1.0"

/-- The exit code of a call whose words make no sense. -/
def usageCode : Nat :=
  2

/-- Name and version of a command. -/
def versionLine (path : List String) : String :=
  "-".intercalate path ++ " " ++ programVersion ++ "\n"

/-- How a command is called. -/
def usageLine (path : List String) : String :=
  "Usage: " ++ " ".intercalate path ++ " [OPTIONS]\n"

/-- The answer to words that were not read to their end. -/
def Stop.answer : Stop → Answer
  | usage => { code := usageCode, errorOutput := usageLine [programName] }
  | help path => { code := 0, output := usageLine path }
  | version path => { code := 0, output := versionLine path }

/-- What the program prints and exits with after a command. -/
def Outcome.answer (outcome : Outcome) : Answer :=
  match outcome.failure with
  | none => { code := 0, output := outcome.printed }
  | some reason =>
      { code := 1, output := outcome.printed, errorOutput := failureLine reason }

/-- Perform a command.  The scope of the environment goes before that of the file,
and the one among the options before both. -/
def Invocation.perform (invocation : Invocation) (scope : Option String) (host : Host) :
    Outcome × Host :=
  match invocation.task with
  | .capture arguments => listTraffic invocation arguments scope host
  | .readTrace file terms limit =>
      (listFile host.files invocation.format file terms limit, host)
  | .checkConfig machine =>
      (reportChecks invocation.format
        (checkAll host.files invocation.config scope machine), host)
  | .showConfig =>
      (.after (RunConfig.load host.files invocation.config scope)
        (showConfig invocation.format), host)
  | .listCapabilities true _ => (listKnown invocation.format, host)
  | .listCapabilities false preflight =>
      match RunConfig.load host.files invocation.config scope with
      | .error error => (.fail error.report, host)
      | .ok config =>
          inspectConfigured invocation.format
            { config with scope := invocation.scope.getD config.scope } preflight host
  | .version => (.print (versionLine [programName]), host)

/-- Call the program. -/
def run (environment : List (String × String)) (words : List String) (host : Host) :
    Answer × Host :=
  match Invocation.read environment words with
  | .error stop => (stop.answer, host)
  | .ok invocation =>
      let scope := environment.lookup RunConfig.scopeVariable
      let (outcome, host) := invocation.perform scope host
      (outcome.answer, host)

end Testbed.Command
