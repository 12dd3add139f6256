import Testbed.Docker
import Testbed.Document.Toml
import Testbed.Qemu
import Testbed.Suite.Preflight
import Testbed.Trace.CaptureConfig

/-!
# Run configurations

This file supplies the settings of a run: the scope of its targets, the backend that
constructs them with a section of settings for each, the checks of fresh targets, and
the trace settings.  A run configuration stands in a TOML file, every part of which
may be left out, and so may the file.

A configuration that is valid and has the section of its backend gives a factory, as long
as the files it refers to stay as they are.
-/

namespace Testbed

/-- What constructs the targets of a run. -/
inductive Backend where
  | docker
  | qemu
  deriving DecidableEq, Repr

namespace Backend

/-- The word for a backend. -/
def name : Backend → String
  | docker => "docker"
  | qemu => "qemu"

/-- Read a backend by its word. -/
def read : Document.Reader Backend :=
  Document.Reader.oneOf [("docker", docker), ("qemu", qemu)]

end Backend

/-- The section on virtual machines. -/
structure MachineSection where
  /-- The file with the settings of the machine. -/
  config : String := ""
  /-- How the machine is started; without it one that runs already is used. -/
  launch : Option Qemu.Launch := none
  /-- The program for remote sessions. -/
  client : Option String := none
  deriving DecidableEq, Repr

namespace MachineSection

/-- Read a section; what is left out has its default. -/
def read : Document.Reader MachineSection := fun format document => do
  let standard : MachineSection := {}
  let record ← Document.Record.read? false ["config", "launch", "ssh_binary"] format document
  let config ← record.orDefault "config" Document.Reader.text standard.config
  let launch ←
    record.orDefault "launch" (Document.Reader.optional Qemu.Launch.read) standard.launch
  let client ←
    record.orDefault "ssh_binary"
      (Document.Reader.optional Document.Reader.text) standard.client
  pure { config, launch, client }

/-- The section as a document. -/
def toDocument (settings : MachineSection) : Document :=
  .table
    [("config", .text settings.config),
     ("launch", match settings.launch with
      | some launch => launch.toDocument
      | none => .null),
     ("ssh_binary", .ofText? settings.client)]

end MachineSection

/-- The settings of a run. -/
structure RunConfig where
  scope : Scope := .perTest
  backend : Option Backend := none
  /-- The checks of fresh targets, if any are made. -/
  preflight : Option Preflight := none
  docker : Option Docker.Config := none
  qemu : Option MachineSection := none
  trace : Option Trace.TraceConfig := none

/-- How the targets of a run are constructed. -/
inductive RunFactory where
  | containers (config : Docker.Config)
  | machines (provider : Qemu.Provider)

namespace RunFactory

/-- The backend of a factory. -/
def backend : RunFactory → Backend
  | containers _ => .docker
  | machines _ => .qemu

/-- The name of a factory. -/
def name : RunFactory → String
  | containers config => (Docker.factory config : Factory Host).name
  | machines provider => provider.factory.name

end RunFactory

namespace RunConfig

/-! ## Documents -/

/-- The keys of a run configuration, in their order. -/
def keys : List String :=
  ["scope", "backend", "preflight", "docker", "qemu", "dlt"]

/-- Read a run configuration; what is left out has its default. -/
def read : Document.Reader RunConfig := fun format document => do
  let standard : RunConfig := {}
  let record ← Document.Record.read? false keys format document
  let scope ← record.orDefault "scope" Scope.read standard.scope
  let backend ←
    record.orDefault "backend" (Document.Reader.optional Backend.read) standard.backend
  let preflight ←
    record.orDefault "preflight"
      (Document.Reader.optional Preflight.read) standard.preflight
  let docker ←
    record.orDefault "docker"
      (Document.Reader.optional Docker.Config.read) standard.docker
  let qemu ←
    record.orDefault "qemu" (Document.Reader.optional MachineSection.read) standard.qemu
  let trace ←
    record.orDefault "dlt"
      (Document.Reader.optional Trace.TraceConfig.read) standard.trace
  pure { scope, backend, preflight, docker, qemu, trace }

/-- The document of a section, or null. -/
def sectionDocument {α : Type} (toDocument : α → Document) (value : Option α) :
    Document :=
  (value.map toDocument).getD .null

/-- A run configuration as a document. -/
def toDocument (config : RunConfig) : Document :=
  .table
    [("scope", .text config.scope.name),
     ("backend", .ofText? (config.backend.map Backend.name)),
     ("preflight", sectionDocument Preflight.toDocument config.preflight),
     ("docker", sectionDocument Docker.Config.toDocument config.docker),
     ("qemu", sectionDocument MachineSection.toDocument config.qemu),
     ("dlt", sectionDocument Trace.TraceConfig.toDocument config.trace)]

/-! ## Files -/

/-- The configuration that a text describes. -/
def ofToml (written : String) : Result RunConfig :=
  match (Document.Toml.parse? written).bind (read .toml) with
  | some config => .ok config
  | none => .error (.toml "malformed run configuration")

/-- The configuration of a file, or the standard one if there is no such file. -/
def ofFile (files : FileTree) (path : String) : Result RunConfig :=
  if files.hasPath path then
    (files.readText path).bind ofToml
  else
    .ok {}

/-- The variable whose value goes before the scope of the file. -/
def scopeVariable : String :=
  "ITF_TARGET_SCOPE"

/-- Load the configuration of a file, with the scope of the environment if it names
one. -/
def load (files : FileTree) (path : String) (scope : Option String) :
    Result RunConfig := do
  let config ← ofFile files path
  match scope with
  | some word => do
      let scope ← Scope.ofText word
      pure { config with scope }
  | none => pure config

/-! ## The backend -/

/-- The backend that is used: the one named, or that of the only section. -/
def selectedBackend (config : RunConfig) : Result Backend :=
  match config.backend, config.docker, config.qemu with
  | some backend, _, _ => .ok backend
  | none, some _, none => .ok .docker
  | none, none, some _ => .ok .qemu
  | none, some _, some _ =>
      .error (.invalidConfig "both [docker] and [qemu] are configured; set `backend`")
  | none, none, none => .error (.invalidConfig "no target backend configured")

/-- Whether anything of a backend is configured. -/
def namesBackend (config : RunConfig) : Bool :=
  config.docker.isSome || config.qemu.isSome || config.backend.isSome

/-- Check every section; of several faults the first in this order is reported. -/
def validate (config : RunConfig) (files : FileTree) : Result Unit := do
  match config.docker with
  | some docker => docker.validate
  | none => pure ()
  match config.qemu with
  | some qemu => discard (Qemu.Config.load files qemu.config)
  | none => pure ()
  match config.trace with
  | some trace => trace.capture.validate
  | none => pure ()
  if config.namesBackend then
    discard config.selectedBackend

/-- The factory of containers. -/
def containerFactory (config : RunConfig) : Result RunFactory :=
  match config.docker with
  | some docker => do
      docker.validate
      pure (.containers docker)
  | none => .error (.invalidConfig "missing [docker] section")

/-- The factory of virtual machines. -/
def machineFactory (config : RunConfig) (files : FileTree) : Result RunFactory :=
  match config.qemu with
  | some settings => do
      let machine ← Qemu.Config.load files settings.config
      pure (.machines
        { config := machine, launch := settings.launch, client := settings.client })
  | none => .error (.invalidConfig "missing [qemu] section")

/-- The factory of the backend that is used. -/
def factory (config : RunConfig) (files : FileTree) : Result RunFactory := do
  match ← config.selectedBackend with
  | .docker => config.containerFactory
  | .qemu => config.machineFactory files

end RunConfig

end Testbed
