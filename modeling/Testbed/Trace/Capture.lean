import Testbed.Host
import Testbed.Trace.CaptureConfig
import Testbed.Trace.Intake

/-!
# Captures

This file supplies captures, which fill a record from a socket or from an external
receiver.  Starting a capture fails with a capture-start failure and with no other.

An external receiver has to stay for a moment before the capture counts as started.
If it is gone when the capture is stopped, that is a failure of the environment, but
what it has written is in the record all the same.
-/

namespace Testbed.Trace

open Testbed.Net

/-- Where the octets of a capture come from. -/
inductive CaptureSource where
  | datagrams (arrived : List Octets)
  | connections (arrived : List (List Octets))
  | receiver (process : Process)

/-- A capture that is running. -/
structure Capture where
  source : CaptureSource
  filter : Option Filter := none

/-- How a capture ended, and what it recorded. -/
structure CaptureEnd where
  outcome : Result CaptureStats
  record : Record

namespace Capture

/-! ## Limits -/

/-- How long a receiver has to stay after it was started. -/
def startupGrace : Span :=
  .ofMillis 300

/-- How long a receiver gets to end when it is asked to. -/
def terminateGrace : Span :=
  .ofSeconds 1

/-- How many lines of a receiver's error output are reported. -/
def reportedLines : Nat :=
  20

/-! ## Failures -/

/-- A failure to start: what was tried and why it failed. -/
def startFailure (what reason : String) : Error :=
  .captureStart (what ++ ": " ++ reason)

/-- Octets cut at line feeds; what follows the last is a line unless it is empty. -/
def cutLines (octets : Octets) : List Octets :=
  match octets.foldr
      (fun octet (line, lines) =>
        if octet = 10 then ([], line :: lines) else (octet :: line, lines))
      (([] : Octets), ([] : List Octets)) with
  | (first, lines) =>
      let all := first :: lines
      if all.getLast? = some [] then all.dropLast else all

/-- The lines of an error output, up to the first that is not text. -/
def errorLines (octets : Octets) : List String :=
  let ended := octets.getLast? = some 10
  let lines := cutLines octets
  let plain := (List.range lines.length).zip lines |>.map fun (index, line) =>
    let hasEnd := ended ∨ index + 1 < lines.length
    if hasEnd ∧ line.getLast? = some 13 then line.dropLast else line
  (plain.map Text.Utf8.decode?).takeWhile Option.isSome |>.filterMap id

/-- How a receiver exited, with the last lines of its error output. -/
def exitReport (status : ExitStatus) (errors : Octets) : String :=
  let lines := errorLines errors
  let report := "; ".intercalate (lines.drop (lines.length - reportedLines))
  "exited (" ++ status.render ++ ")" ++ if report = "" then "" else ": " ++ report

/-! ## Surroundings -/

/-- What the start of a receiver comes to. -/
inductive ReceiverStart where
  | notSpawned (reason : String)
  /-- The receiver has not stayed; what it wrote to its error output. -/
  | exited (status : ExitStatus) (errors : Octets)
  /-- It cannot be told whether the receiver stays. -/
  | notWatched (reason : String)
  | withoutOutput
  | stays (process : Process)

/-- Surroundings in which captures are started. -/
class Surroundings (σ : Type) where
  /-- Take a step of opening a socket: why it is refused, if it is. -/
  attempt : SocketStep → σ → Option String × σ
  /-- What senders have ready for a socket for datagrams. -/
  datagrams : σ → List Octets
  /-- What the daemon sends over each connection. -/
  connections : σ → List (List Octets)
  /-- Start a receiver and see whether it stays. -/
  launch : CommandLine → σ → ReceiverStart × σ

/-- Start a receiver on the host and see whether it stays. -/
def launchReceiver (line : CommandLine) (host : Host) : ReceiverStart × Host :=
  match host.start line with
  | (.error reason, host) => (.notSpawned reason, host)
  | (.ok process, host) =>
      match host.waitUntil process (host.clock + startupGrace) with
      | (some status, host) => (.exited status (process.written true host.clock), host)
      | (none, host) => (.stays process, host)

instance : Surroundings Host where
  attempt step host := (host.network.refusal step, host)
  datagrams host := host.network.datagrams
  connections host := host.network.connections
  launch := launchReceiver

/-! ## Starting -/

/-- The address that a datagram socket is bound to: the only group, so that nothing
else on the port is received, or an address that stands for all. -/
def bindAddress (config : CaptureConfig) : Address :=
  match config.multicastGroups with
  | [] => config.bindAddress
  | [group] => .v4 group
  | _ => .v4 .unspecified

/-- The address of the interface that joins groups. -/
def groupInterface (config : CaptureConfig) : Ipv4 :=
  match config.bindAddress with
  | .v4 address => address
  | .v6 _ => .unspecified

/-- The steps that open a datagram socket. -/
def datagramSteps (config : CaptureConfig) : List SocketStep :=
  [.create, .reuseAddress, .reusePort, .receiveBuffer, .nonBlocking,
   .bind ⟨bindAddress config, config.port⟩]
    ++ config.multicastGroups.map (.join · (groupInterface config))
    ++ [.register]

section Starting

variable {σ : Type} [Surroundings σ]

/-- Take a step of opening a socket. -/
def takeStep (step : SocketStep) : Action σ Unit :=
  .ofFunction fun state =>
    let (refusal, state) := Surroundings.attempt step state
    match refusal with
    | some reason => (.error (startFailure step.description reason), state)
    | none => (.ok (), state)

/-- Open a socket for datagrams; what senders have ready arrives there. -/
def openDatagrams (config : CaptureConfig) : Action σ CaptureSource := do
  (datagramSteps config).forM takeStep
  .observe fun state => .datagrams (Surroundings.datagrams state)

/-- The daemon that a stream capture connects to. -/
def peer (config : CaptureConfig) : Result Endpoint :=
  match config.targetAddress with
  | some address => .ok ⟨address, config.port⟩
  | none => .error (.captureStart "TCP capture requires a target address")

/-- Connect to the daemon. -/
def openConnection (config : CaptureConfig) : Action σ CaptureSource := do
  let peer ← .give (peer config)
  takeStep (.connect peer)
  .observe fun state => .connections (Surroundings.connections state)

/-- The octets of a receiver that was started, if it stays and can be read. -/
def ReceiverStart.source (binary : String) : ReceiverStart → Result CaptureSource
  | notSpawned reason => .error (startFailure ("spawn " ++ binary) reason)
  | exited status errors => .error (startFailure binary (exitReport status errors))
  | notWatched reason => .error (startFailure ("wait for " ++ binary) reason)
  | withoutOutput => .error (startFailure binary "stdout not captured")
  | stays process => .ok (.receiver process)

/-- Start a receiver, which has to stay. -/
def startReceiver (config : CaptureConfig) (binary : String) : Action σ CaptureSource :=
  .ofFunction fun state =>
    let (start, state) := Surroundings.launch ⟨binary, config.processArguments⟩ state
    (start.source binary, state)

/-- Open the source that the settings name. -/
def openSource (config : CaptureConfig) : Action σ CaptureSource :=
  match config.receiver with
  | .process binary _ => startReceiver config binary
  | .socket =>
      match config.transport with
      | .udp => openDatagrams config
      | .tcp => openConnection config

/-- Start a capture. -/
def start (config : CaptureConfig) : Action σ Capture := do
  .give (config.validate.mapError fun error =>
    startFailure "invalid capture configuration" error.message)
  let filter ← .give (config.filter.mapM Filter.ofText)
  let source ← openSource config
  pure { source, filter }

end Starting

/-! ## What has been captured -/

/-- What has been taken in by some time. -/
def intakeAt (capture : Capture) (time : Span) : Intake :=
  let intake : Intake := { filter := capture.filter }
  match capture.source with
  | .datagrams arrived => intake.readDatagrams arrived
  | .connections arrived => intake.readConnections arrived
  | .receiver process => intake.readStream .stored [process.written false time]

/-- The record at some time. -/
def recordAt (capture : Capture) (time : Span) : Record :=
  (capture.intakeAt time).record

/-- Whether the capture owns a socket. -/
def hasSocket (capture : Capture) : Bool :=
  match capture.source with
  | .receiver _ => false
  | _ => true

/-- Whether more can be captured after some time. -/
def isRunning (capture : Capture) (time : Span) : Bool :=
  match capture.source with
  | .receiver process => process.isRunning time
  | _ => true

/-- The times at which something is captured. -/
def arrivalTimes (capture : Capture) : List Span :=
  match capture.source with
  | .receiver process =>
      (process.emissions.filter (!·.isError)).map (process.startedAt + ·.time)
  | _ => []

/-! ## Stopping -/

/-- End the receiver of a capture: why it is gone already, if it is. -/
def endReceiver (process : Process) (host : Host) : Option Error × Host :=
  match process.status? host.clock with
  | some status =>
      let report := exitReport status (process.written true host.clock)
      (some (.environment "dlt" ("receiver " ++ report)), host)
  | none => (none, host.terminate process terminateGrace)

/-- Stop a capture. -/
def stop (capture : Capture) (host : Host) : CaptureEnd × Host :=
  let (loss, host) :=
    match capture.source with
    | .receiver process => endReceiver process host
    | _ => (none, host)
  let intake := capture.intakeAt host.clock
  let outcome :=
    match loss with
    | some error => .error error
    | none => .ok intake.stats
  ({ outcome, record := intake.record }, host)

end Capture

end Testbed.Trace
