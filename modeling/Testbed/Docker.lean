import Testbed.Docker.Config
import Testbed.Document.Json
import Testbed.Pool
import Testbed.Ssh

/-!
# Containers as targets

This file supplies targets that are containers.  Constructing one runs the
container and, if remote sessions are wanted, looks up its address; a container
whose address cannot be found is stopped and removed again.  Tearing a container
down stops it and removes it, the latter even if stopping failed.
-/

namespace Testbed.Docker

/-- A running container. -/
structure Container where
  id : String
  runtime : Runtime
  deriving DecidableEq, Repr

/-- Surroundings in which containers are driven: programs can be run, files looked for and
folders made, and remote sessions opened. -/
class Surroundings (σ : Type) extends Runs σ where
  /-- Refuse a path that is not a file. -/
  requireFile : (path : String) → Action σ Unit
  /-- Make the folder that a path is in. -/
  makeParent : (path : String) → Action σ Unit
  openSession : Ssh.Endpoint → SessionOptions → Action σ (Session σ)

instance : Surroundings Host where
  requireFile := Host.requireFile
  makeParent := Host.makeParent
  openSession := Ssh.openSession

/-- The environment that failures of containers are reported for. -/
def environmentName : String :=
  "docker"

/-- A failure of the environment. -/
def environmentError (reason : String) : Error :=
  .environment environmentName reason

section Constructing

variable {σ : Type} [Surroundings σ]

/-- The command line that asks a runtime for its version. -/
def versionLine (runtime : Runtime) : CommandLine :=
  { program := runtime.command, arguments := ["--version"] }

/-- Whether a runtime answers. -/
def answers (runtime : Runtime) (state : σ) : Bool × σ :=
  match Runs.run (versionLine runtime) state with
  | (.ok finished, state) => (finished.status.success, state)
  | (.error _, state) => (false, state)

/-- The first of some runtimes that answers. -/
def firstAnswering : List Runtime → σ → Option Runtime × σ
  | [], state => (none, state)
  | runtime :: rest, state =>
      match answers runtime state with
      | (true, state) => (some runtime, state)
      | (false, state) => firstAnswering rest state

/-- The runtime of the surroundings. -/
def detect : Action σ (Option Runtime) :=
  .ofFunction fun state =>
    let (runtime, state) := firstAnswering [.docker, .podman] state
    (.ok runtime, state)

/-- The runtime that settings name, or that of the surroundings. -/
def chooseRuntime (config : Config) : Action σ Runtime :=
  match config.runtime with
  | some runtime => pure runtime
  | none => do
      match ← detect with
      | some runtime => pure runtime
      | none => throw (environmentError "no container runtime found")

/-- The command line of the command that comes before the container. -/
def bootstrapLine (command : String) : CommandLine :=
  { program := "sh", arguments := ["-c", command] }

/-- Run the command that comes before the container. -/
def runBootstrap (config : Config) : Action σ Unit :=
  match config.bootstrap with
  | none => pure ()
  | some command =>
      discard
        ((bootstrapLine command).checked.mapFailure
          fun error => environmentError ("bootstrap failed: " ++ error.message))

/-- The command line that runs a container. -/
def runLine (config : Config) (runtime : Runtime) : CommandLine :=
  { program := runtime.command, arguments := config.runArguments }

/-- Run a container. -/
def start (config : Config) : Action σ Container := do
  .give config.validate
  let runtime ← chooseRuntime config
  runBootstrap config
  let id ←
    (runLine config runtime).checked.mapFailure fun error => environmentError error.message
  pure { id, runtime }

end Constructing

/-- How many octets of an identity are shown. -/
def shortLength : Nat :=
  12

/-- The beginning of a text up to a number of octets, if it can be cut there. -/
def cutAt? : Nat → List Char → Option (List Char)
  | 0, _ => some []
  | _ + 1, [] => none
  | count, char :: rest =>
      if char.utf8Size ≤ count then
        (cutAt? (count - char.utf8Size) rest).map (char :: ·)
      else
        none
termination_by _ chars => chars.length

/-- The beginning of an identity, or all of it if it cannot be cut there. -/
def shortId (id : String) : String :=
  ((cutAt? shortLength id.toList).map String.ofList).getD id

namespace Container

variable {σ : Type} [Surroundings σ]

/-- The command line of the runtime with some arguments. -/
def line (container : Container) (arguments : List String) : CommandLine :=
  { program := container.runtime.command, arguments }

/-- Run the runtime, which has to succeed. -/
def control (container : Container) (arguments : List String) : Action σ String :=
  (container.line arguments).checked

/-! ## Addresses -/

/-- The text at a path of keys and positions of a document. -/
def textAt? : List String → Document → Option String
  | [], .text text => some text
  | [], _ => none
  | key :: rest, .list items =>
      if key = "0" then items.head?.bind (textAt? rest) else none
  | key :: rest, document => (document.entry? key).bind (textAt? rest)

/-- A setting of the container on the standard network. -/
def networkSetting (container : Container) (key : String) : Action σ String := do
  let written ← container.control ["inspect", container.id]
  match Document.Json.parse? written with
  | none => throw (.json "malformed description of a container")
  | some document =>
      let path := ["0", "NetworkSettings", "Networks", "bridge", key]
      match (textAt? path document).filter (· ≠ "") with
      | some setting => pure setting
      | none => throw (.notFound (key ++ " of container " ++ shortId container.id))

/-- The address of the container. -/
def ipAddress (container : Container) : Action σ String :=
  container.networkSetting "IPAddress"

/-- The gateway of the container. -/
def gateway (container : Container) : Action σ String :=
  container.networkSetting "Gateway"

/-! ## Operations -/

/-- Run a command in the container, its error output merged into its output. -/
def execute (container : Container) (command : String) : Action σ ExecOutput := do
  let finished ←
    (container.line ["exec", container.id, "sh", "-c", "exec 2>&1; " ++ command]).output
  pure { exitCode := finished.status.codeOrNegative, output := finished.stdout }

/-- Whether a text occurs in another. -/
def occursIn (needle : List Char) : List Char → Bool
  | [] => needle.isEmpty
  | char :: rest => needle.isPrefixOf (char :: rest) || occursIn needle rest

/-- A failed copy from the container; a missing path is not found. -/
def downloadError (remotePath : String) : Error → Error
  | .commandFailed command reason =>
      if occursIn "No such".toList reason.toList then .notFound remotePath
      else .commandFailed command reason
  | error => error

/-- Copying files into the container, if they exist, and out of it. -/
def transfer (container : Container) : Transfer σ :=
  { upload := fun localPath remotePath => do
      Surroundings.requireFile localPath
      discard (container.control ["cp", localPath, container.id ++ ":" ++ remotePath])
    download := fun remotePath localPath => do
      Surroundings.makeParent localPath
      discard
        ((container.control
          ["cp", container.id ++ ":" ++ remotePath, localPath]).mapFailure
            (downloadError remotePath)) }

/-- Restart the container. -/
def restart (container : Container) : Action σ Unit :=
  discard (container.control ["restart", container.id])

/-- The command line that stops the container. -/
def stopLine (container : Container) : CommandLine :=
  container.line ["stop", "-t", "1", container.id]

/-- The command line that removes the container. -/
def removeLine (container : Container) : CommandLine :=
  container.line ["rm", "-f", container.id]

/-- Stop and remove the container; the first failure is reported. -/
def teardown (container : Container) : Action σ Unit := do
  let stopped ← container.stopLine.checked.attempt
  let removed ← container.removeLine.checked.attempt
  discard (.give stopped)
  discard (.give removed)

/-- The rig of the container without remote sessions. -/
def rig (container : Container) : Rig σ :=
  ((({ name := "docker:" ++ shortId container.id } : Rig σ).withExec
    container.execute).withFileTransfer container.transfer).withRestart
      container.restart |>.onTeardown container.teardown

/-- Remote sessions to the container at an address. -/
def endpoint (address : String) (settings : SshSettings) : Ssh.Endpoint :=
  { host := address
    port := settings.port
    user := some settings.username
    identity := settings.identity }

/-- Add remote sessions to a rig, or tear the container down if its address cannot
be found. -/
def addSessions (container : Container) (settings : SshSettings) : Action σ (Rig σ) := do
  match ← container.ipAddress.attempt with
  | .ok address =>
      pure (container.rig.withSessions (Surroundings.openSession (endpoint address settings)))
  | .error error =>
      discard container.teardown.attempt
      throw (environmentError error.message)

end Container

section Constructing

variable {σ : Type} [Surroundings σ]

/-- Construct a target. -/
def create (config : Config) : Action σ (Rig σ) := do
  let container ← start config
  let rig ←
    match config.ssh with
    | some settings => container.addSessions settings
    | none => pure container.rig
  .give rig.check

/-- The factory of containers. -/
def factory (config : Config) : Factory σ :=
  { name := environmentName, create := create config }

end Constructing

end Testbed.Docker
