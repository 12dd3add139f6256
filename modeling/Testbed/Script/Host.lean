import Testbed.Docker
import Testbed.Qemu
import Testbed.Script.Target

/-!
# Hosts in scripts

This file supplies the hosts that scripts describe, with their files, their tools
and the answers of the tools, and the calls that scripts make on containers,
remote sessions and virtual machines.
-/

namespace Testbed.Script

/-! ## Hosts -/

/-- Octets written as text under one key or in hexadecimal digits under another. -/
def octetsUnder (document : Document) (textKey digitsKey : String) : Octets :=
  match field? document digitsKey with
  | some digits => asOctets digits
  | none => Text.Utf8.encode (asText (field document textKey))

/-- The response of a tool that a script describes. -/
def readResponse (document : Document) : Response :=
  { stdout := octetsUnder document "out" "out_hex"
    stderr := Text.Utf8.encode (asText (field document "err"))
    manner :=
      if asBool (field document "stubborn") then .hangs true
      else if asBool (field document "hang") then .hangs false
      else .exits (asNat (field document "code")) }

/-- The files that a script describes. -/
def readFiles (document : Document) : FileTree :=
  match document with
  | .table entries =>
      entries.foldl
        (fun tree (path, content) => tree.write path (octetsUnder content "text" "hex")) {}
  | _ => {}

/-- A host with some tools unless the script names others. -/
def readHost (tools : List String) (document : Document) : Host :=
  let responses := (items document "responses").map readResponse
  { tools :=
      match field? document "tools" with
      | some tools => (asItems tools).map asText
      | none => tools
    respond := fun index => responses[index]?.getD {}
    files := readFiles (field document "files") }

/-- The tools that hosts have as a rule. -/
def standardTools : List String :=
  ["docker", "podman", "ssh", "scp", "ping", "qemu-system-x86_64"]

/-- The calls of tools, each a list of texts. -/
def callsResult (host : Host) : Document :=
  .list (host.callList.map .texts)

/-! ## Containers -/

/-- A call on a container itself. -/
def containerStep (container : Docker.Container) (step : Document) : Action Host Document :=
  match asItems step with
  | [.text "id"] => pure (.text container.id)
  | [.text "ip"] => Document.text <$> container.ipAddress
  | [.text "gateway"] => Document.text <$> container.gateway
  | [.text "detect"] => do
      let runtime ← Docker.detect
      pure (.ofText? (runtime.map Docker.Runtime.command))
  | _ => throw (.internal "bad container step")

/-! ## Remote sessions -/

/-- The endpoint that a script describes. -/
def readSshEndpoint (document : Document) : Ssh.Endpoint :=
  let option (key : String) := (field? document key).map asText
  { host := asText (field document "host")
    port := UInt16.ofNat (asNat (field document "port"))
    client := (option "ssh").getD "ssh"
    copier := (option "scp").getD "scp"
    multiplex := ((field? document "multiplex").map asBool).getD true
    user := option "user"
    identity := option "identity" }

/-- A host and the session that is open on it. -/
structure Remote where
  host : Host
  session : Option (Session Host) := none

/-- Perform an action on the host of a session. -/
def Remote.perform {α : Type} (remote : Remote) (action : Action Host α) :
    Result α × Remote :=
  let (result, host) := action.perform remote.host
  (result, { remote with host })

/-- A call on an endpoint or on the open session. -/
def remoteStep (endpoint : Ssh.Endpoint) (options : SessionOptions) (remote : Remote)
    (step : Document) : Result Document × Remote :=
  let transfer := Ssh.transfer endpoint options
  match asItems step with
  | [.text "connect"] =>
      match remote.perform (Ssh.openSession endpoint options) with
      | (.ok session, remote) =>
          (.ok (.text endpoint.host), { remote with session := some session })
      | (.error error, remote) => (.error error, { remote with session := none })
  | [.text "upload", localPath, remotePath] =>
      remote.perform (quiet (transfer.upload (asText localPath) (asText remotePath)))
  | [.text "download", remotePath, localPath] =>
      let path := asText localPath
      let (result, remote) :=
        remote.perform (quiet (transfer.download (asText remotePath) path))
      let parentExists :=
        match FileTree.parentPath? path with
        | some parent => remote.host.files.hasPath parent
        | none => false
      (result.map fun _ => .table [("parent_exists", .bool parentExists)], remote)
  | [.text "remove_tool", name] =>
      let name := asText name
      (.ok (.bool (remote.host.tools.contains name)),
        { remote with
          host := { remote.host with tools := remote.host.tools.filter (· ≠ name) } })
  | _ =>
      match remote.session with
      | none => (.ok (.text "no session"), remote)
      | some session =>
          match asItems step with
          | [.text "close"] =>
              let (result, remote) := remote.perform (quiet session.close)
              (result, { remote with session := none })
          | _ => remote.perform (sessionStep session step)

/-! ## Virtual machines -/

/-- The provider of machines that a script describes. -/
def readProvider (config : Qemu.Config) (launch : Option Qemu.Launch)
    (options : SessionOptions) (document : Document) : Qemu.Provider :=
  { config
    launch
    sessionOptions := options
    client := (field? document "ssh_binary").map asText }

/-- A call on a machine owned by the run. -/
def machineStep (machine : Qemu.Machine) (step : Document) :
    Action Qemu.Machines Document :=
  match asItems step with
  | [.text "running"] => Document.bool <$> machine.isRunning
  | [.text "has_pid"] => Document.bool <$> machine.hasProcess
  | [.text "stop"] => quiet machine.stop
  | [.text "restart"] => quiet machine.restart
  | _ => throw (.internal "bad machine step")

end Testbed.Script
