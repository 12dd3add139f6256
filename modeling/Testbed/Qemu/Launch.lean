import Testbed.Host.Machine
import Testbed.Qemu.Config

/-!
# Launching virtual machines

This file supplies how the emulator is started: its settings on the host, and the
command line that they and the settings of the machine make.
-/

namespace Testbed.Qemu

/-- How the emulator is started and stopped. -/
structure Launch where
  binary : String := "qemu-system-x86_64"
  /-- The disk image of the guest. -/
  image : String := ""
  /-- Discard what the guest writes. -/
  snapshot : Bool := true
  extraArguments : List String := []
  /-- The time the emulator has to end before it is killed. -/
  stopGrace : Span := .ofSeconds 5
  deriving DecidableEq, Repr

namespace Launch

/-- The keys of the settings, in their order. -/
def keys : List String :=
  ["binary", "image", "snapshot", "extra_args", "stop_grace"]

/-- Read settings; those left out have their defaults. -/
def read : Document.Reader Launch := fun format document => do
  let standard : Launch := {}
  let record ← Document.Record.read? false keys format document
  let binary ← record.orDefault "binary" Document.Reader.text standard.binary
  let image ← record.orDefault "image" Document.Reader.text standard.image
  let snapshot ← record.orDefault "snapshot" Document.Reader.bool standard.snapshot
  let extraArguments ←
    record.orDefault "extra_args" Document.Reader.texts standard.extraArguments
  let stopGrace ← record.orDefault "stop_grace" Document.Reader.span standard.stopGrace
  pure { binary, image, snapshot, extraArguments, stopGrace }

/-- The settings as a document. -/
def toDocument (launch : Launch) : Document :=
  .table
    [("binary", .text launch.binary), ("image", .text launch.image),
     ("snapshot", .bool launch.snapshot), ("extra_args", .texts launch.extraArguments),
     ("stop_grace", .ofSpan launch.stopGrace)]

end Launch

/-! ## The command line -/

/-- What follows the last point of the last name of a path, if something precedes
the point. -/
def extension? (path : String) : Option String :=
  let names := (FileTree.pathParts path).filter fun part => part ≠ "" ∧ part ≠ "."
  match names.getLast? with
  | none => none
  | some name =>
      if name = ".." then
        none
      else
        let behind := name.toList.reverse.takeWhile (· ≠ '.')
        match name.toList.reverse.drop behind.length with
        | '.' :: _ :: _ => some (String.ofList behind.reverse)
        | _ => none

/-- The format of a disk image, by the ending of its name. -/
def imageFormat (image : String) : String :=
  match extension? image with
  | some "qcow2" => "qcow2"
  | some "vmdk" => "vmdk"
  | some "vdi" => "vdi"
  | _ => "raw"

/-- The option for the disk. -/
def driveOption (launch : Launch) : String :=
  "file=" ++ launch.image ++ ",format=" ++ imageFormat launch.image ++ ",if=virtio"
    ++ (if launch.snapshot then ",snapshot=on" else "")

/-- The option for a network by its number. -/
def networkOption (forwards : List PortForward) (index : Nat) (network : Network) : String :=
  if network.name = loopbackAdapter then
    "user,id=net" ++ toString index
      ++ String.join (forwards.map fun forward =>
        ",hostfwd=tcp::" ++ toString forward.hostPort.toNat ++ "-:"
          ++ toString forward.guestPort.toNat)
  else
    "tap,id=net" ++ toString index ++ ",ifname=" ++ network.name
      ++ ",script=no,downscript=no"

/-- The arguments for the networks, numbered from some number on. -/
def networkArguments (forwards : List PortForward) : Nat → List Network → List String
  | _, [] => []
  | index, network :: rest =>
      ["-netdev", networkOption forwards index network,
       "-device", "virtio-net-pci,netdev=net" ++ toString index]
        ++ networkArguments forwards (index + 1) rest

/-- The arguments of the emulator. -/
def arguments (launch : Launch) (config : Config) : List String :=
  ["-m", config.ramSize, "-smp", toString config.cores, "-nographic",
   "-drive", driveOption launch]
    ++ networkArguments config.portForwarding 0 config.networks
    ++ launch.extraArguments

end Testbed.Qemu
