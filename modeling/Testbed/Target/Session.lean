import Testbed.Action
import Testbed.Document.Reader

/-!
# Remote sessions

This file supplies remote sessions: how they are opened, how a command runs in
one, and what a command leaves behind.  A command that misses its deadline has
the exit code -1.
-/

namespace Testbed

/-! ## Options -/

/-- How a session is opened. -/
structure SessionOptions where
  username : String := "root"
  /-- The port, if not that of the target. -/
  port : Option UInt16 := none
  /-- The file of a private key, if not a standard one. -/
  identity : Option String := none
  /-- The time allowed for an attempt. -/
  connectTimeout : Span := .ofSeconds 15
  /-- The number of attempts. -/
  retries : Nat := 5
  /-- The pause between two attempts. -/
  retryInterval : Span := .ofSeconds 1
  deriving DecidableEq, Repr

namespace SessionOptions

/-- The keys of the options, in their order. -/
def keys : List String :=
  ["username", "port", "identity", "connect_timeout", "retries", "retry_interval"]

/-- Read options; only the port and the key may be left out. -/
def read : Document.Reader SessionOptions := fun format document => do
  let record ← Document.Record.read? false keys format document
  let username ← record.required "username" Document.Reader.text
  let port ← record.optional "port" Document.Reader.word16
  let identity ← record.optional "identity" Document.Reader.text
  let connectTimeout ← record.required "connect_timeout" Document.Reader.span
  let retries ← record.required "retries" Document.Reader.word32
  let retryInterval ← record.required "retry_interval" Document.Reader.span
  pure { username, port, identity, connectTimeout, retries, retryInterval }

/-- The options as a document. -/
def toDocument (options : SessionOptions) : Document :=
  .table
    [("username", .text options.username),
     ("port", match options.port with
      | some port => .nat port.toNat
      | none => .null),
     ("identity", .ofText? options.identity),
     ("connect_timeout", .ofSpan options.connectTimeout),
     ("retries", .nat options.retries),
     ("retry_interval", .ofSpan options.retryInterval)]

end SessionOptions

/-- How a command runs. -/
structure CommandOptions where
  /-- The time allowed until the command starts. -/
  startTimeout : Span := .ofSeconds 30
  /-- The time allowed until the command ends. -/
  maxExecTime : Span := .ofSeconds 180
  /-- Keep the error output apart instead of merging it into the output. -/
  separateStderr : Bool := true
  /-- Report every line of output as it arrives. -/
  verbose : Bool := true
  deriving DecidableEq, Repr

/-! ## Results -/

/-- The exit code of a command that missed its deadline. -/
def exitTimedOut : Int :=
  -1

/-- What a remote command leaves behind: lines keep their line feeds. -/
structure CommandOutput where
  exitCode : Int := 0
  stdoutLines : List String := []
  stderrLines : List String := []
  deriving DecidableEq, Repr

namespace CommandOutput

/-- Whether the command missed its deadline. -/
def timedOut (output : CommandOutput) : Bool :=
  output.exitCode = exitTimedOut

/-- The output as one text. -/
def stdout (output : CommandOutput) : String :=
  String.join output.stdoutLines

/-- The error output as one text. -/
def stderr (output : CommandOutput) : String :=
  String.join output.stderrLines

end CommandOutput

/-! ## Sessions -/

/-- An open remote session. -/
structure Session (σ : Type) where
  run : String → CommandOptions → Action σ CommandOutput
  close : Action σ Unit

/-- Run a command under the standard options and give only its exit code. -/
def Session.exitCode {σ : Type} (session : Session σ) (command : String) :
    Action σ Int := do
  let output ← session.run command {}
  pure output.exitCode

end Testbed
