import Testbed.Document.Reader
import Testbed.Trace.Filter

/-!
# Capture settings

This file supplies the settings of a capture: the transport, the addresses, the
filter, and whether the capture opens the socket itself or leaves that to an
external receiver.  It also supplies their document form, which reads back as the
same settings, and the shorter form that a run configuration holds.
-/

namespace Testbed.Trace

open Testbed.Net

/-- How trace messages reach the capture. -/
inductive Transport where
  | udp
  | tcp
  deriving DecidableEq, Repr

namespace Transport

/-- The word for a transport. -/
def name : Transport → String
  | udp => "udp"
  | tcp => "tcp"

/-- The transport of a word in any case. -/
def ofText (text : String) : Result Transport :=
  let word := Text.toLowerAscii text
  if word = "udp" then .ok udp
  else if word = "tcp" then .ok tcp
  else .error (.invalidConfig ("unknown DLT transport '" ++ word ++ "'"))

end Transport

/-- Who reads the transport. -/
inductive Receiver where
  /-- The capture itself. -/
  | socket
  /-- A program that writes stored messages to its standard output.  Without
  arguments of its own it gets those that the settings imply. -/
  | process (binary : String) (arguments : Option (List String))
  deriving DecidableEq, Repr

/-- The receiver that is used unless another is named. -/
def defaultReceiver : String :=
  "dlt-receive"

/-- The port of the trace daemon. -/
def defaultPort : UInt16 :=
  3490

/-- Settings of one capture. -/
structure CaptureConfig where
  transport : Transport := .udp
  /-- The local address to bind, or whose interface joins the groups. -/
  bindAddress : Address := .v4 .unspecified
  port : UInt16 := defaultPort
  multicastGroups : List Ipv4 := []
  /-- The peer, or the host that an external receiver is given. -/
  targetAddress : Option Address := none
  filter : Option String := none
  receiver : Receiver := .socket
  deriving DecidableEq, Repr

namespace CaptureConfig

/-- A capture on a local address. -/
def udp (address : Address) (port : UInt16) : CaptureConfig :=
  { bindAddress := address, port }

/-- A capture that connects to a daemon. -/
def tcp (peer : Endpoint) : CaptureConfig :=
  { transport := .tcp, port := peer.port, targetAddress := some peer.address }

/-- Join a further group. -/
def withMulticast (config : CaptureConfig) (group : Ipv4) : CaptureConfig :=
  { config with multicastGroups := config.multicastGroups ++ [group] }

/-- Whether an external receiver reads the transport. -/
def isProcess (config : CaptureConfig) : Bool :=
  match config.receiver with
  | .socket => false
  | .process .. => true

/-! ## Validity -/

/-- Check that the settings of a stream transport are complete. -/
def validateStream (config : CaptureConfig) : Result Unit :=
  match config.transport with
  | .udp => .ok ()
  | .tcp =>
      if config.targetAddress.isNone then
        .error (.invalidConfig "TCP capture requires a target address")
      else if !config.multicastGroups.isEmpty then
        .error (.invalidConfig "multicast groups only apply to UDP capture")
      else
        .ok ()

/-- Check the settings; of several faults the first in this order is reported. -/
def validate (config : CaptureConfig) : Result Unit := do
  match config.multicastGroups.find? (!·.isMulticast) with
  | some group =>
      throw (.invalidConfig (group.render ++ " is not a multicast address"))
  | none => pure ()
  config.validateStream
  if config.port = 0 ∧ (config.transport = .tcp ∨ config.isProcess) then
    throw (.invalidConfig "DLT port must not be 0")
  match config.filter with
  | some source => discard (Filter.ofText source)
  | none => pure ()

/-! ## External receivers -/

/-- Arguments that the settings imply for an external receiver. -/
def impliedArguments (config : CaptureConfig) : List String :=
  let port := ["-p", toString config.port.toNat]
  let peer := config.targetAddress.getD config.bindAddress
  ["-o", "/dev/stdout"]
    ++ match config.transport with
      | .tcp => port ++ [peer.render]
      | .udp =>
          let interface :=
            if config.bindAddress.isUnspecified then [] else ["-i", config.bindAddress.render]
          let host :=
            match config.multicastGroups with
            | group :: _ => group.render
            | [] => peer.render
          ["-u"] ++ interface ++ port ++ [host]

/-- Arguments for an external receiver. -/
def processArguments (config : CaptureConfig) : List String :=
  match config.receiver with
  | .process _ (some arguments) => arguments
  | _ => config.impliedArguments

end CaptureConfig

/-! ## Documents -/

/-- Read a transport by its word. -/
def Transport.read : Document.Reader Transport :=
  Document.Reader.oneOf [("udp", .udp), ("tcp", .tcp)]

namespace Receiver

/-- A receiver as a document, which names its kind. -/
def toDocument : Receiver → Document
  | socket => .table [("kind", .text "socket")]
  | process binary arguments =>
      .table
        [("kind", .text "process"), ("binary", .text binary),
         ("args", match arguments with
          | some arguments => .texts arguments
          | none => .null)]

/-- Read the settings of an external receiver. -/
def readProcess : Document.Reader Receiver := fun format document => do
  let record ← Document.Record.readWhole? false ["binary", "args"] format document
  let binary ← record.orDefault "binary" Document.Reader.text defaultReceiver
  let arguments ←
    record.orDefault "args" (Document.Reader.optional Document.Reader.texts) none
  pure (.process binary arguments)

/-- Read a receiver of a kind, to which no other settings may be added in a list. -/
def readKind (kind : String) : Document.Reader Receiver := fun format document =>
  if kind = "socket" then
    (Document.Record.readWhole? false [] format document).map fun _ => .socket
  else if kind = "process" then readProcess format document
  else none

/-- Read a receiver by its kind. -/
def read : Document.Reader Receiver
  | format, .table entries => do
      let record ← Document.Record.read? false ["kind"] format (.table entries)
      let kind ← record.required "kind" Document.Reader.text
      readKind kind format (.table (entries.filter (·.1 ≠ "kind")))
  | format, .list (.text kind :: values) => readKind kind format (.list values)
  | _, _ => none

end Receiver

/-- An address that may be absent. -/
def addressDocument (address : Option Address) : Document :=
  .ofText? (address.map Address.render)

namespace CaptureConfig

/-- The keys of the settings, in their order. -/
def keys : List String :=
  ["transport", "bind_address", "port", "multicast_groups", "target_address",
   "filter", "receiver"]

/-- The settings as a document. -/
def toDocument (config : CaptureConfig) : Document :=
  .table
    [("transport", .text config.transport.name),
     ("bind_address", .text config.bindAddress.render),
     ("port", .nat config.port.toNat),
     ("multicast_groups", .texts (config.multicastGroups.map Ipv4.render)),
     ("target_address", addressDocument config.targetAddress),
     ("filter", .ofText? config.filter),
     ("receiver", config.receiver.toDocument)]

/-- Read settings; those left out have their defaults. -/
def read : Document.Reader CaptureConfig := fun format document => do
  let record ← Document.Record.read? false keys format document
  let standard : CaptureConfig := {}
  let transport ← record.orDefault "transport" Transport.read standard.transport
  let bindAddress ←
    record.orDefault "bind_address" Document.Reader.address standard.bindAddress
  let port ← record.orDefault "port" Document.Reader.word16 standard.port
  let multicastGroups ←
    record.orDefault "multicast_groups"
      (Document.Reader.listOf Document.Reader.ipv4) standard.multicastGroups
  let targetAddress ←
    record.orDefault "target_address"
      (Document.Reader.optional Document.Reader.address) standard.targetAddress
  let filter ←
    record.orDefault "filter"
      (Document.Reader.optional Document.Reader.text) standard.filter
  let receiver ← record.orDefault "receiver" Receiver.read standard.receiver
  pure
    { transport, bindAddress, port, multicastGroups, targetAddress, filter, receiver }

end CaptureConfig

/-! ## The trace section of a run configuration -/

/-- Trace settings of a run: the control unit and the host that listens to it. -/
structure TraceConfig where
  targetIp : Address
  hostIp : Address
  multicastIps : List Ipv4 := []
  port : UInt16 := defaultPort
  transport : Transport := .udp
  filter : Option String := none
  receiver : Option Receiver := none
  deriving DecidableEq, Repr

namespace TraceConfig

/-- The capture that the settings describe. -/
def capture (config : TraceConfig) : CaptureConfig :=
  { transport := config.transport
    bindAddress := config.hostIp
    port := config.port
    multicastGroups := config.multicastIps
    targetAddress := some config.targetIp
    filter := config.filter
    receiver := config.receiver.getD .socket }

/-- The keys of the settings, in their order. -/
def keys : List String :=
  ["target_ip", "host_ip", "multicast_ips", "port", "transport", "filter", "receiver"]

/-- The settings as a document. -/
def toDocument (config : TraceConfig) : Document :=
  .table
    [("target_ip", .text config.targetIp.render),
     ("host_ip", .text config.hostIp.render),
     ("multicast_ips", .texts (config.multicastIps.map Ipv4.render)),
     ("port", .nat config.port.toNat),
     ("transport", .text config.transport.name),
     ("filter", .ofText? config.filter),
     ("receiver", match config.receiver with
      | some receiver => receiver.toDocument
      | none => .null)]

/-- Read settings; both addresses are required. -/
def read : Document.Reader TraceConfig := fun format document => do
  let record ← Document.Record.read? false keys format document
  let targetIp ← record.required "target_ip" Document.Reader.address
  let hostIp ← record.required "host_ip" Document.Reader.address
  let multicastIps ←
    record.orDefault "multicast_ips"
      (Document.Reader.listOf Document.Reader.ipv4) []
  let port ← record.orDefault "port" Document.Reader.word16 defaultPort
  let transport ← record.orDefault "transport" Transport.read .udp
  let filter ←
    record.orDefault "filter" (Document.Reader.optional Document.Reader.text) none
  let receiver ←
    record.orDefault "receiver" (Document.Reader.optional Receiver.read) none
  pure { targetIp, hostIp, multicastIps, port, transport, filter, receiver }

end TraceConfig

end Testbed.Trace
