import Testbed.Net.Ping
import Testbed.Pool
import Testbed.Qemu.Launch
import Testbed.Ssh

/-!
# Virtual machines as targets

This file supplies targets that are virtual machines.  A machine is either started
by the test run, which then owns its process, or was started elsewhere.  Commands
run in remote sessions of their own.
-/

namespace Testbed.Qemu

/-- The environment that failures of machines are reported for. -/
def environmentName : String :=
  "qemu"

/-- A failure of the environment. -/
def environmentError (reason : String) : Error :=
  .environment environmentName reason

/-! ## Machines -/

/-- Machines owned by the run, by the numbers they were given. -/
structure Machines where
  host : Host
  /-- The processes that are kept, the latest first. -/
  processes : List (Nat × Process) := []
  /-- How many machines have been taken on. -/
  count : Nat := 0

namespace Machines

/-- An action on the host alone. -/
def onHost {α : Type} (action : Action Host α) : Action Machines α :=
  .ofFunction fun machines =>
    let (result, host) := action.perform machines.host
    (result, { machines with host })

/-- The process of a machine, by its number. -/
def process? (machines : Machines) (number : Nat) : Option Process :=
  machines.processes.lookup number

/-- Keep the process of a machine in place of any other. -/
def keep (machines : Machines) (number : Nat) (process : Process) : Machines :=
  { machines with
    processes := (number, process) :: machines.processes.filter (·.1 ≠ number) }

/-- Forget the process of a machine. -/
def drop (machines : Machines) (number : Nat) : Machines :=
  { machines with processes := machines.processes.filter (·.1 ≠ number) }

end Machines

/-- A machine owned by the run. -/
structure Machine where
  number : Nat
  launch : Launch
  arguments : List String
  deriving DecidableEq, Repr

/-- The time after which an emulator that still runs has been started. -/
def startupGrace : Span :=
  .ofMillis 200

namespace Machine

/-- Start the process of a machine. -/
def spawn (machine : Machine) : Action Machines Unit :=
  .ofFunction fun machines =>
    let launch := machine.launch
    if !machines.host.files.isFile launch.image then
      (.error (environmentError ("image not found: " ++ launch.image)), machines)
    else
      let line : CommandLine := { program := launch.binary, arguments := machine.arguments }
      match machines.host.start line with
      | (.error reason, host) =>
          (.error (environmentError ("failed to spawn QEMU: " ++ reason)),
            { machines with host })
      | (.ok process, host) =>
          let host := host.advanceTo (host.clock + startupGrace)
          let machines := { machines with host }
          match process.status? host.clock with
          | some status =>
              (.error (environmentError
                ("QEMU exited immediately with " ++ status.render)), machines)
          | none => (.ok (), machines.keep machine.number process)

/-- End the process of a machine, if it has one. -/
def stop (machine : Machine) : Action Machines Unit :=
  .change fun machines =>
    match machines.process? machine.number with
    | none => machines
    | some process =>
        { machines.drop machine.number with
          host := machines.host.terminate process machine.launch.stopGrace }

/-- End the process of a machine and start another. -/
def restart (machine : Machine) : Action Machines Unit := do
  machine.stop
  machine.spawn

/-- Whether the process of a machine runs. -/
def isRunning (machine : Machine) : Action Machines Bool :=
  .observe fun machines =>
    ((machines.process? machine.number).map (·.isRunning machines.host.clock)).getD false

/-- Whether the machine has a process. -/
def hasProcess (machine : Machine) : Action Machines Bool :=
  .observe fun machines => (machines.process? machine.number).isSome

end Machine

/-- Start a machine. -/
def boot (launch : Launch) (config : Config) : Action Machines Machine := do
  let number ← .observe Machines.count
  let machine : Machine := { number, launch, arguments := arguments launch config }
  .change fun machines => { machines with count := number + 1 }
  machine.spawn
  pure machine

/-! ## Targets -/

/-- How machines under test are provided. -/
structure Provider where
  config : Config
  /-- How a machine is started; without it one that runs already is used. -/
  launch : Option Launch := none
  sessionOptions : SessionOptions := {}
  client : Option String := none

namespace Provider

/-- The time that a connection for a single command may take. -/
def execTimeout : Span :=
  .ofSeconds 30

/-- Where remote sessions are opened at an address. -/
def endpoint (provider : Provider) (address : Net.Ipv4) : Ssh.Endpoint :=
  { host := address.render
    port := provider.config.sshPort
    client := provider.client.getD "ssh" }

/-- Run a command in a session of its own.  A failure of closing the session is
reported before one of the command. -/
def execute (provider : Provider) (endpoint : Ssh.Endpoint) (command : String) :
    Action Host ExecOutput := do
  let options := { provider.sessionOptions with connectTimeout := execTimeout }
  let session ← Ssh.openSession endpoint options
  let result ← (session.run command { startTimeout := execTimeout }).attempt
  session.close
  let output ← .give result
  pure { exitCode := output.exitCode, output := Text.Utf8.encode output.stdout }

/-- A session of the host as one among machines. -/
def liftSession (session : Session Host) : Session Machines :=
  { run := fun command options => Machines.onHost (session.run command options)
    close := Machines.onHost session.close }

/-- The operations of a machine at an address that do not need its process. -/
def attachedRig (provider : Provider) (address : Net.Ipv4) : Rig Machines :=
  let endpoint := provider.endpoint address
  let copying := Ssh.transfer endpoint provider.sessionOptions
  let reaching := Net.pinger (.v4 address)
  let rig : Rig Machines := { name := "qemu:" ++ endpoint.host }
  let rig := rig.withExec fun command => Machines.onHost (provider.execute endpoint command)
  let rig := rig.withSftp
    { upload := fun localPath remotePath =>
        Machines.onHost (copying.upload localPath remotePath)
      download := fun remotePath localPath =>
        Machines.onHost (copying.download remotePath localPath) }
  let rig := rig.withSessions fun options =>
    liftSession <$> Machines.onHost (Ssh.openSession endpoint options)
  let rig := rig.withPing
    { ping := fun policy => Machines.onHost (reaching.ping policy)
      pingLost := fun policy => Machines.onHost (reaching.pingLost policy) }
  rig.onTeardown (pure ())

/-- The rig of a machine at an address. -/
def rig (provider : Provider) (address : Net.Ipv4) : Option Machine → Rig Machines
  | none => provider.attachedRig address
  | some machine =>
      ((provider.attachedRig address).onTeardown machine.stop).withRestart machine.restart

/-- Construct a target. -/
def create (provider : Provider) : Action Machines (Rig Machines) := do
  .give provider.config.validate
  let machine ← provider.launch.mapM fun launch => boot launch provider.config
  let rig : Result (Rig Machines) :=
    match provider.config.primaryNetwork? with
    | some network => (provider.rig network.address machine).check
    | none => .error (.invalidConfig "QEMU config has no network")
  .give (rig.mapError fun error => environmentError error.message)

/-- The factory of machines. -/
def factory (provider : Provider) : Factory Machines :=
  { name := environmentName, create := provider.create }

end Provider

end Testbed.Qemu
