import Testbed.Shell

/-!
# Running programs on the host

This file supplies the starting of programs and the ways to wait for them.  The
host has a shell, a program that prints files and one that sleeps, besides its
tools.  A program that cannot be started leaves the text of the operating system.

A program that is waited for without a limit and never ends is taken to have been
killed.
-/

namespace Testbed

/-- A program and its arguments. -/
structure CommandLine where
  program : String
  arguments : List String
  deriving DecidableEq, Repr

namespace CommandLine

/-- The program and the arguments between blanks. -/
def render (line : CommandLine) : String :=
  " ".intercalate (line.program :: line.arguments)

/-- Arguments beyond this size are refused by the operating system. -/
def argumentLimit : Nat :=
  131072

end CommandLine

/-- What a program that has ended leaves behind. -/
structure Finished where
  status : ExitStatus
  stdout : Octets
  stderr : Octets
  deriving DecidableEq, Repr

/-- Surroundings in which programs can be run to their end. -/
class Runs (σ : Type) where
  /-- Run a program: what it leaves behind, or why it cannot be started. -/
  run : CommandLine → σ → Except String Finished × σ

namespace CommandLine

variable {σ : Type} [Runs σ]

/-- Run a program; one that cannot be started is a failed command. -/
def output (line : CommandLine) : Action σ Finished :=
  .ofFunction fun state =>
    let (result, state) := Runs.run line state
    (result.mapError fun reason => .commandFailed line.render reason, state)

/-- What a program that has to succeed gives: its output without blanks at the ends. -/
def accept (line : CommandLine) (finished : Finished) : Result String :=
  if finished.status.success then
    .ok (Text.trim (Text.Utf8.decode finished.stdout))
  else
    .error (.commandFailed line.render
      (Text.trim (Text.Utf8.decode finished.stderr) ++ " ("
        ++ finished.status.render ++ ")"))

/-- Run a program that has to succeed. -/
def checked (line : CommandLine) : Action σ String := do
  let finished ← line.output
  .give (line.accept finished)

end CommandLine

namespace Host

/-! ## Starting -/

/-- The process of a response to a call. -/
def responseProcess (response : Response) (startedAt : Span) : Process :=
  { startedAt
    emissions := Response.emissions response .zero
    ending :=
      match response.manner with
      | .exits code => .exits (.code code) .zero
      | .hangs stubborn => .stays stubborn }

/-- Start a program that every host has, if this is one. -/
def startStandard? (line : CommandLine) (host : Host) : Option (Process × Host) :=
  match line.program, line.arguments with
  | "sh", option :: script :: _ | "/bin/sh", option :: script :: _ =>
      if option.endsWith "c" then some (Shell.start script host)
      else if option = "-p" then some (Shell.startFile script host)
      else none
  | "cat", _ | "sleep", _ =>
      let command : Shell.Command :=
        .simple ((line.program :: line.arguments).map fun text =>
          [⟨.text text.toList, true⟩]) []
      let (flow, run) := Shell.runList 2 [(.always, command)] { host }
      let ending :=
        match flow with
        | .stays stubborn => .stays stubborn
        | _ => .exits (.code run.status) run.elapsed
      some ({ startedAt := host.clock, emissions := run.emissions.reverse, ending }, run.host)
  | _, _ => none

/-- Why a program that is no tool of the host cannot be started. -/
def startFault (line : CommandLine) (host : Host) : PathFault :=
  if line.program.contains '/' then
    match host.files.find line.program with
    | .ok _ => .denied
    | .error fault => fault
  else
    .missing

/-- Start a program: its process, or the text of the operating system. -/
def start (line : CommandLine) (host : Host) : Except String Process × Host :=
  let texts := line.program :: line.arguments
  if texts.any (·.contains '\x00') then
    (.error "nul byte found in provided data", host)
  else if texts.any (CommandLine.argumentLimit ≤ ·.utf8ByteSize) then
    (.error "Argument list too long (os error 7)", host)
  else if host.tools.contains line.program then
    let (response, called) := host.call line.program line.arguments
    (.ok (responseProcess response host.clock), called)
  else
    match host.startStandard? line with
    | some (process, host) => (.ok process, host)
    | none => (.error (host.startFault line).message, host)

/-! ## Waiting -/

/-- Move the clock forward to a time. -/
def advanceTo (time : Span) (host : Host) : Host :=
  if host.clock ≤ time then { host with clock := time } else host

/-- Wait for a process to end, up to a time. -/
def waitUntil (process : Process) (limit : Span) (host : Host) :
    Option ExitStatus × Host :=
  match process.ending with
  | .exits status after =>
      let ends := process.startedAt + after
      if ends ≤ limit then (some status, host.advanceTo ends)
      else (none, host.advanceTo limit)
  | .stays _ => (none, host.advanceTo limit)

/-- Wait for a process to end. -/
def wait (process : Process) (host : Host) : ExitStatus × Host :=
  match process.ending with
  | .exits status after => (status, host.advanceTo (process.startedAt + after))
  | .stays _ => (.signal 9, host)

/-- Ask a process to end, and kill it if it has not done so in time. -/
def terminate (process : Process) (grace : Span) (host : Host) : Host :=
  if process.isRunning host.clock then
    match process.ending with
    | .stays true => host.advanceTo (host.clock + grace)
    | _ => host
  else
    host

/-! ## Running to the end -/

/-- Run a program and collect what it writes. -/
def run (line : CommandLine) (host : Host) : Except String Finished × Host :=
  match host.start line with
  | (.error reason, host) => (.error reason, host)
  | (.ok process, host) =>
      let (status, host) := host.wait process
      (.ok
        { status
          stdout := process.allWritten false
          stderr := process.allWritten true }, host)

instance : Runs Host where
  run := run

/-! ## Files -/

/-- An operation on files whose fault is a failure of input and output. -/
def changeFiles (act : FileTree → Except PathFault FileTree) : Action Host Unit :=
  .ofFunction fun host =>
    match act host.files with
    | .ok files => (.ok (), { host with files })
    | .error fault => (.error (.io fault.message), host)

/-- Refuse a path that is not a file. -/
def requireFile (path : String) : Action Host Unit := do
  let isFile ← .observe fun host => host.files.isFile path
  if !isFile then
    throw (.notFound path)

/-- Make the folder that a path is in, if it names one. -/
def makeParent (path : String) : Action Host Unit :=
  match (FileTree.parentPath? path).filter (· ≠ "") with
  | some parent => changeFiles (·.makeFolder parent)
  | none => pure ()

end Host

end Testbed
