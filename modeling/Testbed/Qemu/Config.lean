import Testbed.Document.Json
import Testbed.Document.Reader
import Testbed.Error
import Testbed.Host.FileTree

/-!
# Settings of virtual machines

This file supplies the settings of the machine under test, which stand in a file
of their own and may hold no unknown keys.
-/

namespace Testbed.Qemu

open Testbed.Net

/-- The adapter that stands for networking in user mode. -/
def loopbackAdapter : String :=
  "lo"

/-- A network of the machine. -/
structure Network where
  /-- The adapter on the host. -/
  name : String
  address : Ipv4
  gateway : Ipv4
  deriving DecidableEq, Repr

/-- A port of the host that leads to one of the guest. -/
structure PortForward where
  hostPort : UInt16
  guestPort : UInt16
  deriving DecidableEq, Repr

/-- Settings of the machine under test. -/
structure Config where
  networks : List Network
  sshPort : UInt16
  cores : Nat
  ramSize : String
  portForwarding : List PortForward := []
  deriving DecidableEq, Repr

namespace Network

/-- Read a network; all keys are required and no others are allowed. -/
def read : Document.Reader Network := fun format document => do
  let record ← Document.Record.read? true ["name", "ip_address", "gateway"] format document
  let name ← record.required "name" Document.Reader.text
  let address ← record.required "ip_address" Document.Reader.ipv4
  let gateway ← record.required "gateway" Document.Reader.ipv4
  pure { name, address, gateway }

/-- A network as a document. -/
def toDocument (network : Network) : Document :=
  .table
    [("name", .text network.name), ("ip_address", .text network.address.render),
     ("gateway", .text network.gateway.render)]

end Network

namespace PortForward

/-- Read a port; both keys are required and no others are allowed. -/
def read : Document.Reader PortForward := fun format document => do
  let record ← Document.Record.read? true ["host_port", "guest_port"] format document
  let hostPort ← record.required "host_port" Document.Reader.word16
  let guestPort ← record.required "guest_port" Document.Reader.word16
  pure { hostPort, guestPort }

/-- A port as a document. -/
def toDocument (forward : PortForward) : Document :=
  .table
    [("host_port", .nat forward.hostPort.toNat),
     ("guest_port", .nat forward.guestPort.toNat)]

end PortForward

namespace Config

/-- The keys of the settings, in their order. -/
def keys : List String :=
  ["networks", "ssh_port", "qemu_num_cores", "qemu_ram_size", "port_forwarding"]

/-- Read settings; only the ports may be left out, and no other keys are allowed. -/
def read : Document.Reader Config := fun format document => do
  let record ← Document.Record.read? true keys format document
  let networks ← record.required "networks" (Document.Reader.listOf Network.read)
  let sshPort ← record.required "ssh_port" Document.Reader.word16
  let cores ← record.required "qemu_num_cores" Document.Reader.word32
  let ramSize ← record.required "qemu_ram_size" Document.Reader.text
  let portForwarding ←
    record.orDefault "port_forwarding" (Document.Reader.listOf PortForward.read) []
  pure { networks, sshPort, cores, ramSize, portForwarding }

/-- The settings as a document. -/
def toDocument (config : Config) : Document :=
  .table
    [("networks", .list (config.networks.map Network.toDocument)),
     ("ssh_port", .nat config.sshPort.toNat),
     ("qemu_num_cores", .nat config.cores),
     ("qemu_ram_size", .text config.ramSize),
     ("port_forwarding", .list (config.portForwarding.map PortForward.toDocument))]

/-! ## Validity -/

/-- The form of a memory size, as messages show it. -/
def ramSizeForm : String :=
  "^[0-9]+[KMGTP]$"

/-- Whether a memory size is a number and a unit. -/
def isRamSize (size : List Char) : Bool :=
  let digits := size.takeWhile Char.isDigit
  match size.drop digits.length with
  | [unit] => !digits.isEmpty && "KMGTP".toList.contains unit
  | _ => false

/-- A failure of the settings. -/
def invalid (reason : String) : Result Unit :=
  .error (.invalidConfig reason)

/-- Check the ports that lead to the guest. -/
def validateForwarding (forwards : List PortForward) : Result Unit :=
  match forwards.find? fun forward => forward.hostPort = 0 ∨ forward.guestPort = 0 with
  | some forward =>
      invalid ("port_forwarding: ports must be in 1..65535, got "
        ++ toString forward.hostPort.toNat ++ "->" ++ toString forward.guestPort.toNat)
  | none => .ok ()

/-- Check the settings; of several faults the first in this order is reported. -/
def validate (config : Config) : Result Unit :=
  if config.networks.isEmpty then
    invalid "networks: at least one entry required"
  else
    match config.networks.find? (·.name = "") with
    | some network => invalid ("networks: empty name for " ++ network.address.render)
    | none =>
        if config.sshPort = 0 then
          invalid "ssh_port must be in 1..65535"
        else if config.cores = 0 then
          invalid "qemu_num_cores must be at least 1"
        else if !isRamSize config.ramSize.toList then
          invalid ("qemu_ram_size '" ++ config.ramSize ++ "' does not match " ++ ramSizeForm)
        else
          validateForwarding config.portForwarding

/-- The network that remote sessions and checks use. -/
def primaryNetwork? (config : Config) : Option Network :=
  config.networks.head?

/-! ## Files -/

/-- Valid settings out of a text. -/
def ofJson (written : String) : Result Config :=
  match (Document.Json.parse? written).bind (read .json) with
  | some config => config.validate.map fun _ => config
  | none => .error (.invalidConfig "malformed machine settings")

/-- Whether a text has the form of settings, valid or not. -/
def isReadable (written : String) : Bool :=
  ((Document.Json.parse? written).bind (read .json)).isSome

/-- Valid settings out of a file. -/
def load (files : FileTree) (path : String) : Result Config := do
  let written ← files.readText path
  (ofJson written).mapError fun error =>
    .invalidConfig
      ("invalid QEMU configuration in '" ++ path ++ "': " ++ error.message)

end Config

end Testbed.Qemu
