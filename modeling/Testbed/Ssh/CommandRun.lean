import Testbed.Host.Process
import Testbed.Target.Session
import Testbed.Text.Blank
import Testbed.Text.Line

/-!
# Runs of remote commands

This file supplies what becomes of a remote command as its client goes on: the
client writes to its two outputs, closes them and ends, and the deadline may pass
at any time.  The command has ended once both outputs are closed and the client
has ended; a deadline that passes before that cuts it off.
-/

namespace Testbed.Ssh

/-- What happens to a client. -/
inductive ClientEvent where
  | stdout (chunk : Octets)
  | stderr (chunk : Octets)
  | stdoutClosed
  | stderrClosed
  | deadline
  | ended (status : ExitStatus)
  deriving DecidableEq, Repr

/-- One output of a client: the lines read from it and whether it is open. -/
structure ClientOutput where
  lines : List String := []
  splitter : Text.LineSplitter := {}
  isOpen : Bool := true
  deriving DecidableEq, Repr

namespace ClientOutput

/-- Take in a chunk, unless the output is closed. -/
def read (output : ClientOutput) (chunk : Octets) : ClientOutput :=
  if output.isOpen then
    let (more, splitter) := output.splitter.push chunk
    { output with lines := output.lines ++ more, splitter }
  else
    output

/-- Close the output. -/
def close (output : ClientOutput) : ClientOutput :=
  { output with isOpen := false }

/-- All lines, the unfinished one included. -/
def allLines (output : ClientOutput) : List String :=
  output.lines ++ output.splitter.finish?.toList

end ClientOutput

/-- A remote command under way. -/
structure CommandRun where
  stdout : ClientOutput := {}
  stderr : ClientOutput := {}
  /-- The status of a client that has ended. -/
  status : Option ExitStatus := none
  /-- Whether the deadline passed while the command was under way. -/
  timedOut : Bool := false
  deriving DecidableEq, Repr

namespace CommandRun

/-- Whether an output is open, so that there may be more to read. -/
def isReading (run : CommandRun) : Bool :=
  run.stdout.isOpen || run.stderr.isOpen

/-- Whether the deadline has passed, or both outputs are closed and the client has
ended. -/
def isOver (run : CommandRun) : Bool :=
  run.timedOut || (!run.isReading && run.status.isSome)

/-- Note that the client has ended. -/
def noteEnd (run : CommandRun) (status : ExitStatus) : CommandRun :=
  { run with status := run.status.or (some status) }

/-- Take an event in while there may be more to read. -/
def read (run : CommandRun) : ClientEvent → CommandRun
  | .stdout chunk => { run with stdout := run.stdout.read chunk }
  | .stderr chunk => { run with stderr := run.stderr.read chunk }
  | .stdoutClosed => { run with stdout := run.stdout.close }
  | .stderrClosed => { run with stderr := run.stderr.close }
  | .deadline => { run with timedOut := true }
  | .ended status => run.noteEnd status

/-- Take an event in when only the end of the client is still to come. -/
def await (run : CommandRun) : ClientEvent → CommandRun
  | .deadline => { run with timedOut := true }
  | .ended status => run.noteEnd status
  | _ => run

/-- Take an event in; nothing counts after the end. -/
def step (run : CommandRun) (event : ClientEvent) : CommandRun :=
  if run.isOver then
    run
  else if run.isReading then
    run.read event
  else
    run.await event

/-- The run that some events make. -/
def ofEvents (events : List ClientEvent) : CommandRun :=
  events.foldl step {}

/-- The exit status that the client keeps for failures of its own. -/
def clientFailure : Int :=
  255

/-- The output of a command that is over, at a host of some name. -/
def result (run : CommandRun) (host : String) (options : CommandOptions) :
    Result CommandOutput :=
  let stderrLines := if options.separateStderr then run.stderr.allLines else []
  let exitCode :=
    if run.timedOut then exitTimedOut else (run.status.bind ExitStatus.code?).getD exitTimedOut
  if exitCode = clientFailure then
    .error (.connection
      ("ssh to " ++ host ++ " failed: "
        ++ Text.trim (String.join run.stderr.allLines)))
  else
    .ok { exitCode, stdoutLines := run.stdout.allLines, stderrLines }

end CommandRun

/-- What happens to a client that is a process of the host, by the deadline. -/
def clientEvents (process : Process) (deadline : Span) : List ClientEvent :=
  let written :=
    (process.emissions.filter fun emission =>
      decide (process.startedAt + emission.time < deadline)).map fun emission =>
        if emission.isError then .stderr emission.data else .stdout emission.data
  match process.ending with
  | .exits status after =>
      if process.startedAt + after < deadline then
        written ++ [.stdoutClosed, .stderrClosed, .ended status]
      else
        written ++ [.deadline]
  | .stays _ => written ++ [.deadline]

end Testbed.Ssh
