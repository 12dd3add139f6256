import Testbed.Host
import Testbed.Shell.Quote
import Testbed.Target.Session

/-!
# Endpoints of remote sessions

This file supplies the endpoint that sessions are opened at and the command lines
of the programs that reach it: the client and the program that copies files.
-/

namespace Testbed.Ssh

/-- Where and how a remote host is reached. -/
structure Endpoint where
  host : String
  port : UInt16
  client : String := "ssh"
  copier : String := "scp"
  /-- Keep one connection for all commands of a session. -/
  multiplex : Bool := true
  /-- The name to log in under, if not that of the session options. -/
  user : Option String := none
  /-- The key to use if the session options have none. -/
  identity : Option String := none
  deriving DecidableEq, Repr

/-- The command that runs a command after the profile of the login shell. -/
def remoteCommand (command : String) (mergeStderr : Bool) : String :=
  "sh -lc " ++ Shell.quote
    ("[ -r /etc/profile ] && . /etc/profile >/dev/null 2>&1; "
      ++ (if mergeStderr then "exec 2>&1; " else "") ++ command)

namespace Endpoint

/-- The name to log in under. -/
def userFor (endpoint : Endpoint) (options : SessionOptions) : String :=
  endpoint.user.getD options.username

/-- The port to connect to. -/
def portFor (endpoint : Endpoint) (options : SessionOptions) : UInt16 :=
  options.port.getD endpoint.port

/-- Where the client connects to. -/
def destination (endpoint : Endpoint) (options : SessionOptions) : String :=
  endpoint.userFor options ++ "@" ++ endpoint.host

/-- A remote path for copying; a host with a colon stands in brackets. -/
def location (endpoint : Endpoint) (options : SessionOptions) (path : String) : String :=
  let host :=
    if endpoint.host.contains ':' then "[" ++ endpoint.host ++ "]" else endpoint.host
  endpoint.userFor options ++ "@" ++ host ++ ":" ++ path

/-- Arguments that the client and the copier share. -/
def commonArguments (endpoint : Endpoint) (options : SessionOptions)
    (controlPath : Option String) : List String :=
  let settings :=
    ["BatchMode=yes", "StrictHostKeyChecking=no", "UserKnownHostsFile=/dev/null",
     "LogLevel=ERROR",
     "ConnectTimeout=" ++ toString (max options.connectTimeout.seconds 1)]
  let identity :=
    match options.identity.or endpoint.identity with
    | some identity => ["-i", identity, "-o", "IdentitiesOnly=yes"]
    | none => []
  let control :=
    match controlPath with
    | some path => ["-o", "ControlPath=" ++ path]
    | none => []
  settings.flatMap (["-o", ·]) ++ identity ++ control

/-- Arguments of the client that runs a command. -/
def clientArguments (endpoint : Endpoint) (options : SessionOptions)
    (controlPath : Option String) (remote : String) : List String :=
  ["-p", toString (endpoint.portFor options).toNat, "-T"]
    ++ endpoint.commonArguments options controlPath
    ++ [endpoint.destination options, remote]

/-- Arguments of the copier. -/
def copyArguments (endpoint : Endpoint) (options : SessionOptions)
    (source destination : String) : List String :=
  ["-P", toString (endpoint.portFor options).toNat, "-q"]
    ++ endpoint.commonArguments options none ++ [source, destination]

end Endpoint

end Testbed.Ssh
