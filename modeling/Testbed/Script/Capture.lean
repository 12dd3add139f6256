import Testbed.Script.Frame
import Testbed.Script.Host
import Testbed.Trace.Window

/-!
# Captures in scripts

This file supplies the captures and windows of scripts.  The host of a script has
sockets but no network behind them: every address of the fourth version can be
bound, no group can be joined, and a datagram that is sent on the host does not
reach it.  A daemon that a script describes can be connected to.
-/

namespace Testbed.Script

open Testbed.Trace

/-! ## The network -/

/-- Why the host of a script refuses a step of opening a socket. -/
def isolatedRefusal : SocketStep → Option String
  | .bind ⟨.v6 address, _⟩ =>
      if (Net.Address.v6 address).isUnspecified then none
      else some "Cannot assign requested address (os error 99)"
  | .join .. => some "No such device (os error 19)"
  | .connect _ => some "Network is unreachable (os error 101)"
  | _ => none

/-- The network of a script without a daemon. -/
def isolatedNetwork : Network :=
  { refusal := isolatedRefusal }

/-- The network of a script with a daemon, which closes all connections but the
last. -/
def daemonNetwork (connections : List (List Octets)) : Network :=
  { connections }

/-! ## Captures -/

/-- The counts of a capture. -/
def statsDocument (stats : CaptureStats) : Document :=
  .table
    [("received", .nat stats.received), ("recorded", .nat stats.recorded),
     ("filtered", .nat stats.filtered), ("reconnects", .nat stats.reconnects)]

/-- The entries that describe a record. -/
def recordEntries (record : Record) : List (String × Document) :=
  [("frames", .texts (record.frames.toList.map Frame.render)),
   ("apids", .texts record.apids)]

/-- The entries that describe the end of a capture. -/
def endEntries (ending : CaptureEnd) : List (String × Document) :=
  ("stats", stepResult (ending.outcome.map statsDocument)) :: recordEntries ending.record

/-- Capture for some time: entries on the capture while it runs, then its end. -/
def captureEntries (config : CaptureConfig) (time : Span)
    (describe : Capture → Span → List (String × Document)) (host : Host) :
    Result (List (String × Document)) :=
  match (Capture.start config).perform host with
  | (.error error, _) => .error error
  | (.ok capture, host) =>
      let host := host.advanceTo (host.clock + time)
      let during := describe capture host.clock
      let (ending, _) := capture.stop host
      .ok (during ++ endEntries ending)

/-- The entry that tells whether a capture runs. -/
def runningEntry (capture : Capture) (time : Span) : List (String × Document) :=
  [("running", .bool (capture.isRunning time))]

/-- The entry that tells whether a capture has a socket. -/
def socketEntry (capture : Capture) (_ : Span) : List (String × Document) :=
  [("local_addr", .bool capture.hasSocket)]

/-- Nothing about the capture while it runs. -/
def noEntry (_ : Capture) (_ : Span) : List (String × Document) :=
  []

/-- A capture on the host itself, with the filter of a script. -/
def loopbackConfig (request : Document) : CaptureConfig :=
  { CaptureConfig.udp (.v4 ⟨127, 0, 0, 1⟩) 0 with
    filter := (field? request "filter").map asText }

/-- A capture from the daemon of a script. -/
def daemonConfig (request : Document) : CaptureConfig :=
  { CaptureConfig.tcp ⟨.v4 ⟨127, 0, 0, 1⟩, defaultPort⟩ with
    filter := (field? request "filter").map asText }

/-- A capture through a receiver that runs the shell text of a script. -/
def receiverConfig (request : Document) : CaptureConfig :=
  { loopbackConfig request with
    port := defaultPort
    receiver :=
      .process (((field? request "binary").map asText).getD "sh")
        (some ["-c", asText (field request "script")]) }

/-- The connections with the daemon of a script. -/
def readConnections (request : Document) : List (List Octets) :=
  let first := (items request "data").map asOctets
  match field? request "reconnect" with
  | some second => [first, (asItems second).map asOctets]
  | none => [first]

/-! ## Windows -/

/-- Positions in a record. -/
def positionsDocument (positions : List Nat) : Document :=
  .list (positions.map .nat)

/-- What a script finds in a window that it closes. -/
def windowEntries (query : Option Query) (wait : Option (Query × Nat × Span))
    (late : List Frame) (window : Window) (host : Host) : List (String × Document) :=
  let (waited, host) :=
    match wait with
    | some (query, count, allowed) =>
        let (result, host) := (window.waitFor query count allowed).perform host
        (stepResult (result.map positionsDocument), host)
    | none => (.null, host)
  let before := window.capture.recordAt host.clock
  let (ending, _) := window.finish host
  let record := ending.record
  [("sealed", .list [.bool before.isSealed, .bool record.isSealed]),
   ("found", positionsDocument (before.positions query)), ("wait", waited),
   ("frames", .texts (record.frames.toList.map Frame.render)),
   ("append_after", .list (late.map fun frame => .bool (record.append frame).1))]

/-- The body of a window in a script: the size of the record, or a failure. -/
def windowBody (failure : Option Error) (window : Window) : Action Host Document :=
  match failure with
  | some error => throw error
  | none => (fun record => .nat record.size) <$> window.record

end Testbed.Script
