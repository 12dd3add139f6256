import Testbed.Document.Reader
import Testbed.Error
import Testbed.Target.Capability
import Testbed.Text.Blank

/-!
# Settings of containers

This file supplies how the container under test is run: its image and command, its
environment in the order of the names, and how it is reached by remote sessions.
-/

namespace Testbed.Docker

/-- The command line that containers are driven by. -/
inductive Runtime where
  | docker
  | podman
  deriving DecidableEq, Repr

namespace Runtime

/-- The command of a runtime. -/
def command : Runtime → String
  | docker => "docker"
  | podman => "podman"

/-- Read a runtime by its name. -/
def read : Document.Reader Runtime :=
  Document.Reader.oneOf [("docker", docker), ("podman", podman)]

end Runtime

/-- How remote sessions reach a container. -/
structure SshSettings where
  port : UInt16 := 2222
  username : String := "score"
  identity : Option String := none
  deriving DecidableEq, Repr

namespace SshSettings

/-- Read settings; those left out have their defaults. -/
def read : Document.Reader SshSettings := fun format document => do
  let standard : SshSettings := {}
  let record ← Document.Record.read? false ["port", "username", "identity"] format document
  let port ← record.orDefault "port" Document.Reader.word16 standard.port
  let username ← record.orDefault "username" Document.Reader.text standard.username
  let identity ←
    record.orDefault "identity"
      (Document.Reader.optional Document.Reader.text) standard.identity
  pure { port, username, identity }

/-- The settings as a document. -/
def toDocument (settings : SshSettings) : Document :=
  .table
    [("port", .nat settings.port.toNat), ("username", .text settings.username),
     ("identity", .ofText? settings.identity)]

end SshSettings

/-! ## Environments -/

/-- Put a variable in its place by name, over one of the same name. -/
def placeVariable (name value : String) : List (String × String) → List (String × String)
  | [] => [(name, value)]
  | (other, old) :: rest =>
      if name < other then (name, value) :: (other, old) :: rest
      else if name = other then (name, value) :: rest
      else (other, old) :: placeVariable name value rest

/-- Read variables; the last of several of one name counts. -/
def readEnvironment : Document.Reader (List (String × String))
  | format, .table entries =>
      entries.foldlM
        (fun placed (name, value) => do
          pure (placeVariable name (← Document.Reader.text format value) placed))
        []
  | _, _ => none

/-! ## Settings -/

/-- How the container under test is run. -/
structure Config where
  image : String := ""
  /-- A command of the host that is run before the container is started. -/
  bootstrap : Option String := none
  /-- The command of the container; that of the image if empty. -/
  command : List String := ["sleep", "infinity"]
  /-- Run the command under an init process. -/
  init : Bool := true
  /-- Variables in the order of their names. -/
  environment : List (String × String) := []
  /-- The runtime, if it is not to be looked for. -/
  runtime : Option Runtime := none
  ssh : Option SshSettings := none
  deriving DecidableEq, Repr

namespace Config

/-- Check that an image is named. -/
def validate (config : Config) : Result Unit :=
  if Text.trim config.image = "" then
    .error (.invalidConfig "docker image must be set")
  else
    .ok ()

/-- Arguments that run the container. -/
def runArguments (config : Config) : List String :=
  ["run", "-d"] ++ (if config.init then ["--init"] else [])
    ++ config.environment.flatMap (fun (name, value) => ["-e", name ++ "=" ++ value])
    ++ [config.image] ++ config.command

/-- The keys of the settings, in their order. -/
def keys : List String :=
  ["image", "bootstrap", "command", "init", "environment", "runtime", "ssh"]

/-- Read settings; those left out have their defaults. -/
def read : Document.Reader Config := fun format document => do
  let standard : Config := {}
  let record ← Document.Record.read? false keys format document
  let image ← record.orDefault "image" Document.Reader.text standard.image
  let bootstrap ←
    record.orDefault "bootstrap"
      (Document.Reader.optional Document.Reader.text) standard.bootstrap
  let command ← record.orDefault "command" Document.Reader.texts standard.command
  let init ← record.orDefault "init" Document.Reader.bool standard.init
  let environment ← record.orDefault "environment" readEnvironment standard.environment
  let runtime ←
    record.orDefault "runtime" (Document.Reader.optional Runtime.read) standard.runtime
  let ssh ←
    record.orDefault "ssh" (Document.Reader.optional SshSettings.read) standard.ssh
  pure { image, bootstrap, command, init, environment, runtime, ssh }

/-- The settings as a document. -/
def toDocument (config : Config) : Document :=
  .table
    [("image", .text config.image), ("bootstrap", .ofText? config.bootstrap),
     ("command", .texts config.command), ("init", .bool config.init),
     ("environment",
       .table (config.environment.map fun (name, value) => (name, .text value))),
     ("runtime", .ofText? (config.runtime.map Runtime.command)),
     ("ssh", match config.ssh with
      | some settings => settings.toDocument
      | none => .null)]

end Config

end Testbed.Docker
