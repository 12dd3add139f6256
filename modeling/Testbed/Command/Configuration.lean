import Testbed.Command.Listing
import Testbed.Document.Toml.Writer
import Testbed.RunConfig

/-!
# Commands on the run configuration

This file supplies the commands that check a run configuration, section by section, and
that show it.  Every check succeeds if and only if the configuration can be loaded and
is valid, and the further machine file, where there is one, is too.
-/

namespace Testbed.Command

/-- One checked item: its details, or why it is invalid. -/
structure Check where
  item : String
  result : Result String

namespace Check

/-- Whether the item is valid. -/
def isOk (check : Check) : Bool :=
  check.result.toOption.isSome

/-- The details of the item, or the text of its failure. -/
def detail (check : Check) : String :=
  match check.result with
  | .ok detail => detail
  | .error error => error.message

/-- The headings of a listing of checks. -/
def headings : List String :=
  ["Item", "Status", "Detail"]

/-- A check in a listing. -/
def cells (check : Check) : List String :=
  [check.item, if check.isOk then "ok" else "invalid", check.detail]

/-- A check as a document. -/
def toDocument (check : Check) : Document :=
  .table
    [("item", .text check.item), ("ok", .bool check.isOk), ("detail", .text check.detail)]

end Check

/-! ## Checking -/

/-- The settings of a machine in one line. -/
def describeMachine (config : Qemu.Config) : String :=
  let networks :=
    config.networks.map fun network => network.name ++ "=" ++ network.address.render
  toString config.cores ++ " core(s), " ++ config.ramSize ++ " RAM, ssh port "
    ++ toString config.sshPort.toNat ++ ", networks " ++ ",".intercalate networks

/-- The check of the container section; its details are the image. -/
def checkContainer (config : Docker.Config) : Check :=
  ⟨"[docker]", config.validate.map fun _ => config.image⟩

/-- The check of a machine file; its details are the settings in one line. -/
def checkMachine (files : FileTree) (item path : String) : Check :=
  ⟨item, (Qemu.Config.load files path).map describeMachine⟩

/-- The check of the trace section; its details are the transport and where it is bound.
-/
def checkTrace (config : Trace.TraceConfig) : Check :=
  let capture := config.capture
  ⟨"[dlt]", capture.validate.map fun _ =>
    capture.transport.name ++ " " ++ capture.bindAddress.render ++ ":"
      ++ toString capture.port.toNat⟩

/-- The check that the backend can be selected. -/
def checkBackend (config : RunConfig) : Check :=
  ⟨"backend", config.selectedBackend.map Backend.name⟩

/-- The checks of the sections that are there. -/
def checkSections (files : FileTree) (config : RunConfig) : List Check :=
  (config.docker.map checkContainer).toList
    ++ (config.qemu.map fun settings =>
      checkMachine files "[qemu]" settings.config).toList
    ++ (config.trace.map checkTrace).toList
    ++ if config.namesBackend then [checkBackend config] else []

/-- Check a run configuration, and a further machine file if one is named. -/
def checkAll (files : FileTree) (path : String) (scope machine : Option String) :
    List Check :=
  match RunConfig.load files path scope with
  | .error error => [⟨path, .error error⟩]
  | .ok config =>
      ⟨path, .ok ("scope " ++ config.scope.name)⟩ :: checkSections files config
        ++ (machine.map fun machine => checkMachine files machine machine).toList

/-- List the checks and say whether all succeeded. -/
def reportChecks (format : Format) (checks : List Check) : Outcome :=
  let listing :=
    (Listing.ofItems Check.headings Check.cells Check.toDocument checks).render format
  let failed := (checks.filter (!·.isOk)).length
  if failed = 0 then
    .print (listing ++ successLine "Configuration is valid")
  else
    { printed := listing
      failure := some (toString failed ++ " configuration problem(s)") }

/-! ## Showing -/

/-- Write a run configuration. -/
def showConfig (format : Format) (config : RunConfig) : Outcome :=
  match format with
  | .json => .print (Document.Json.pretty 0 config.toDocument ++ "\n")
  | _ =>
      match Document.Toml.write? config.toDocument with
      | some written => .print (written ++ "\n")
      | none => .fail "rendering configuration: out-of-range value for u64 type"

end Testbed.Command
