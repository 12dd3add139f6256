import Testbed.Ssh.CommandRun
import Testbed.Ssh.Endpoint
import Testbed.Target

/-!
# Remote sessions over the client

This file supplies sessions that run every command through the client, and the
copying of files.  A session is opened by trying to connect, up to a number of
attempts with pauses between them.  With multiplexing, the first connection stays
in the background, later commands share it, and closing the session ends it.
-/

namespace Testbed.Ssh

/-- The file through which the commands of a session share a connection. -/
def sharedControlPath : String :=
  "<dir>/master"

/-- The file through which commands share a connection, if they do. -/
def controlPath? (endpoint : Endpoint) : Option String :=
  if endpoint.multiplex then some sharedControlPath else none

/-! ## Connecting -/

/-- The command line of an attempt to connect. -/
def connectLine (endpoint : Endpoint) (options : SessionOptions) : CommandLine :=
  let background :=
    if endpoint.multiplex then
      ["-o", "ControlPersist=60", "-o", "ControlMaster=auto"]
    else
      []
  { program := endpoint.client
    arguments := background
      ++ endpoint.clientArguments options (controlPath? endpoint) "true" }

/-- How long an attempt may take. -/
def attemptBound (options : SessionOptions) : Span :=
  options.connectTimeout + .ofSeconds 5

/-- What an attempt to connect comes to. -/
inductive AttemptOutcome where
  | notStarted (reason : String)
  | unanswered
  | ended (status : ExitStatus)
  deriving DecidableEq, Repr

namespace AttemptOutcome

/-- Whether the attempt is taken for a connection: its client has ended, and not with the
status that it keeps for failures of its own. -/
def connects : AttemptOutcome → Bool
  | ended status => status.code? ≠ some CommandRun.clientFailure
  | _ => false

/-- What went wrong in an attempt that might take as long as the bound. -/
def describe (bound : Span) : AttemptOutcome → String
  | notStarted reason => reason
  | unanswered => "no answer within " ++ bound.render
  | ended status => "ssh exited with " ++ status.render

end AttemptOutcome

/-- One attempt to connect. -/
def attempt (endpoint : Endpoint) (options : SessionOptions) (host : Host) :
    AttemptOutcome × Host :=
  match host.start (connectLine endpoint options) with
  | (.error reason, host) => (.notStarted reason, host)
  | (.ok process, host) =>
      match host.waitUntil process (host.clock + attemptBound options) with
      | (some status, host) => (.ended status, host)
      | (none, host) => (.unanswered, host)

/-- How often connecting is tried. -/
def attemptCount (options : SessionOptions) : Nat :=
  max options.retries 1

section Connecting

variable {σ : Type} [Timed σ]

/-- Up to a number of attempts with pauses between them: nothing once one of them
succeeds, else what went wrong last. -/
def attempts (options : SessionOptions) (attempt : σ → AttemptOutcome × σ)
    (lastReason : String) : Nat → σ → Option String × σ
  | 0, state => (some lastReason, state)
  | count + 1, state =>
      let (outcome, state) := attempt state
      if outcome.connects then
        (none, state)
      else
        let state := if count = 0 then state else Timed.pause options.retryInterval state
        attempts options attempt (outcome.describe (attemptBound options)) count state

/-- The failure to connect to an endpoint. -/
def unreachable (endpoint : Endpoint) (options : SessionOptions) (reason : String) : Error :=
  .connection
    ("SSH connection to " ++ endpoint.host ++ ":"
      ++ toString (endpoint.portFor options).toNat ++ " failed after "
      ++ toString (attemptCount options) ++ " attempt(s): " ++ reason)

/-- Connect to an endpoint, one attempt being as given. -/
def connectBy (attempt : σ → AttemptOutcome × σ) (endpoint : Endpoint)
    (options : SessionOptions) : Action σ Unit :=
  .ofFunction fun state =>
    match attempts options attempt "" (attemptCount options) state with
    | (none, state) => (.ok (), state)
    | (some reason, state) => (.error (unreachable endpoint options reason), state)

end Connecting

/-- Connect to an endpoint. -/
def connect (endpoint : Endpoint) (options : SessionOptions) : Action Host Unit :=
  connectBy (attempt endpoint options) endpoint options

/-! ## Sessions -/

/-- Run a command in a session. -/
def runCommand (endpoint : Endpoint) (session : SessionOptions) (command : String)
    (options : CommandOptions) : Action Host CommandOutput :=
  .ofFunction fun host =>
    let session := { session with connectTimeout := options.startTimeout }
    let line : CommandLine :=
      { program := endpoint.client
        arguments := endpoint.clientArguments session (controlPath? endpoint)
          (remoteCommand command !options.separateStderr) }
    match host.start line with
    | (.error reason, host) =>
        (.error (.commandFailed command
          ("failed to spawn " ++ endpoint.client ++ ": " ++ reason)), host)
    | (.ok process, host) =>
        let deadline := host.clock + options.maxExecTime
        let run := CommandRun.ofEvents (clientEvents process deadline)
        (run.result endpoint.host options, (host.waitUntil process deadline).2)

/-- Close a session: with multiplexing, ask the connection to end. -/
def close (endpoint : Endpoint) (session : SessionOptions) : Action Host Unit :=
  match controlPath? endpoint with
  | none => pure ()
  | some path => do
      let line : CommandLine :=
        { program := endpoint.client
          arguments :=
            ["-o", "ControlPath=" ++ path, "-O", "exit", endpoint.destination session] }
      discard line.checked.attempt

/-- Open a session at an endpoint. -/
def openSession (endpoint : Endpoint) (options : SessionOptions) :
    Action Host (Session Host) := do
  connect endpoint options
  pure { run := runCommand endpoint options, close := close endpoint options }

/-! ## Copying files -/

/-- Copying files to and from an endpoint. -/
def transfer (endpoint : Endpoint) (options : SessionOptions) : Transfer Host :=
  { upload := fun localPath remotePath => do
      Host.requireFile localPath
      copy localPath (endpoint.location options remotePath)
    download := fun remotePath localPath => do
      Host.makeParent localPath
      copy (endpoint.location options remotePath) localPath }
where
  copy (source destination : String) : Action Host Unit := do
    discard (CommandLine.checked
      { program := endpoint.copier
        arguments := endpoint.copyArguments options source destination })

end Testbed.Ssh
