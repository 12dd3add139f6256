import Testbed.Target.Gate
import Testbed.Target.Session
import Testbed.Text.Utf8
import Testbed.Time.Poll

/-!
# Targets

This file supplies targets: a name, a set of capabilities, and the operations
that the known capabilities stand for.  A rig is what a backend puts together; a
target is a rig with an identity.

An operation is available when it is there and the target declares its
capability.  A backend that declares a known capability without its operation is
refused by `Rig.check`, so on checked rigs the two conditions agree.
-/

namespace Testbed

/-! ## Operations -/

/-- What a command leaves behind: its exit code and its output. -/
structure ExecOutput where
  exitCode : Int := 0
  output : Octets := []
  deriving DecidableEq, Repr

namespace ExecOutput

/-- Whether the exit code is 0. -/
def success (result : ExecOutput) : Bool :=
  result.exitCode = 0

/-- The output as text. -/
def text (result : ExecOutput) : String :=
  Text.Utf8.decode result.output

end ExecOutput

/-- Copying files between the test host and the target. -/
structure Transfer (σ : Type) where
  upload : (localPath remotePath : String) → Action σ Unit
  download : (remotePath localPath : String) → Action σ Unit

/-- Checks that the target can, or can no longer, be reached. -/
structure Pinger (σ : Type) where
  ping : PollPolicy → Action σ Unit
  pingLost : PollPolicy → Action σ Unit

/-- The operations that the known capabilities stand for. -/
structure Operations (σ : Type) where
  exec : Option (String → Action σ ExecOutput) := none
  transfer : Option (Transfer σ) := none
  restart : Option (Action σ Unit) := none
  sessions : Option (SessionOptions → Action σ (Session σ)) := none
  pinger : Option (Pinger σ) := none

namespace Operations

/-- Whether a capability has the operation that it stands for; extensions stand
for none. -/
def implements {σ : Type} (operations : Operations σ) (capability : Capability) : Bool :=
  if capability = Capability.exec then operations.exec.isSome
  else if capability = Capability.fileTransfer ∨ capability = Capability.sftp then
    operations.transfer.isSome
  else if capability = Capability.restart then operations.restart.isSome
  else if capability = Capability.ssh then operations.sessions.isSome
  else if capability = Capability.ping then operations.pinger.isSome
  else true

end Operations

/-! ## Rigs -/

/-- What a backend puts together. -/
structure Rig (σ : Type) where
  name : String
  capabilities : CapabilitySet := .empty
  operations : Operations σ := {}
  /-- What releases the resources of the target. -/
  teardown : Option (Action σ Unit) := none

namespace Rig

variable {σ : Type}

/-- Declare a capability. -/
def declare (rig : Rig σ) (capability : Capability) : Rig σ :=
  { rig with capabilities := rig.capabilities.insert capability }

/-- Running commands. -/
def withExec (rig : Rig σ) (exec : String → Action σ ExecOutput) : Rig σ :=
  { rig with operations := { rig.operations with exec := some exec } }.declare
    Capability.exec

/-- Copying files. -/
def withFileTransfer (rig : Rig σ) (transfer : Transfer σ) : Rig σ :=
  { rig with operations := { rig.operations with transfer := some transfer } }.declare
    Capability.fileTransfer

/-- Copying files over remote sessions, which is also a way of copying files. -/
def withSftp (rig : Rig σ) (transfer : Transfer σ) : Rig σ :=
  (rig.withFileTransfer transfer).declare Capability.sftp

/-- Restarting. -/
def withRestart (rig : Rig σ) (restart : Action σ Unit) : Rig σ :=
  { rig with operations := { rig.operations with restart := some restart } }.declare
    Capability.restart

/-- Remote sessions. -/
def withSessions (rig : Rig σ) (sessions : SessionOptions → Action σ (Session σ)) :
    Rig σ :=
  { rig with operations := { rig.operations with sessions := some sessions } }.declare
    Capability.ssh

/-- Checks of reachability. -/
def withPing (rig : Rig σ) (pinger : Pinger σ) : Rig σ :=
  { rig with operations := { rig.operations with pinger := some pinger } }.declare
    Capability.ping

/-- Set what releases the resources. -/
def onTeardown (rig : Rig σ) (hook : Action σ Unit) : Rig σ :=
  { rig with teardown := some hook }

/-- The first declared capability whose operation is not there. -/
def hollow? (rig : Rig σ) : Option Capability :=
  rig.capabilities.names.find? (!rig.operations.implements ·)

/-- Refuse a rig that declares an operation it does not have. -/
def check (rig : Rig σ) : Result (Rig σ) :=
  match rig.hollow? with
  | some capability =>
      .error (.invalidConfig
        ("target " ++ rig.name ++ " declares '" ++ capability
          ++ "' without an implementation"))
  | none => .ok rig

end Rig

/-! ## Targets -/

/-- A rig that has been taken into service under an identity. -/
structure Target (σ : Type) extends Rig σ where
  id : Nat

namespace Target

variable {σ : Type}

/-- Whether the target declares a capability. -/
def has (target : Target σ) (capability : Capability) : Bool :=
  target.capabilities.contains capability

/-- Whether the target declares all of some capabilities. -/
def hasAll (target : Target σ) (capabilities : CapabilitySet) : Bool :=
  capabilities.isSubset target.capabilities

/-- Whether the target declares one of some capabilities. -/
def hasAny (target : Target σ) (capabilities : CapabilitySet) : Bool :=
  capabilities.intersects target.capabilities

/-- An operation, if it is there and its capability is declared. -/
def available {α : Type} (target : Target σ) (operation : Option α)
    (capability : Capability) : Result α :=
  match operation with
  | some operation =>
      if target.has capability then .ok operation else .error (.unsupported capability)
  | none => .error (.unsupported capability)

/-- Running commands, if available. -/
def exec? (target : Target σ) : Result (String → Action σ ExecOutput) :=
  target.available target.operations.exec Capability.exec

/-- Copying files, if available. -/
def transfer? (target : Target σ) : Result (Transfer σ) :=
  target.available target.operations.transfer Capability.fileTransfer

/-- Restarting, if available. -/
def restart? (target : Target σ) : Result (Action σ Unit) :=
  target.available target.operations.restart Capability.restart

/-- Remote sessions, if available. -/
def sessions? (target : Target σ) : Result (SessionOptions → Action σ (Session σ)) :=
  target.available target.operations.sessions Capability.ssh

/-- Checks of reachability, if available. -/
def pinger? (target : Target σ) : Result (Pinger σ) :=
  target.available target.operations.pinger Capability.ping

/-- Run a command. -/
def execute (target : Target σ) (command : String) : Action σ ExecOutput := do
  let exec ← .give target.exec?
  exec command

/-- Copy a file to the target. -/
def upload (target : Target σ) (localPath remotePath : String) : Action σ Unit := do
  let transfer ← .give target.transfer?
  transfer.upload localPath remotePath

/-- Copy a file from the target. -/
def download (target : Target σ) (remotePath localPath : String) : Action σ Unit := do
  let transfer ← .give target.transfer?
  transfer.download remotePath localPath

/-- Restart the target. -/
def restart (target : Target σ) : Action σ Unit := do
  let restart ← .give target.restart?
  restart

/-- Wait until the target answers. -/
def ping (target : Target σ) (policy : PollPolicy) : Action σ Unit := do
  let pinger ← .give target.pinger?
  pinger.ping policy

/-- Wait until the target no longer answers. -/
def pingLost (target : Target σ) (policy : PollPolicy) : Action σ Unit := do
  let pinger ← .give target.pinger?
  pinger.pingLost policy

/-- Open a remote session. -/
def openSession (target : Target σ) (options : SessionOptions) :
    Action σ (Session σ) := do
  let sessions ← .give target.sessions?
  sessions options

/-- Use a session, which is closed however its use ends.  A failure of the use is
reported before one of closing. -/
def withSession {α : Type} (target : Target σ) (options : SessionOptions)
    (use : Session σ → Action σ α) : Action σ α := do
  let session ← target.openSession options
  let result ← (use session).attempt
  let closed ← session.close.attempt
  let value ← .give result
  .give closed
  pure value

end Target

end Testbed
