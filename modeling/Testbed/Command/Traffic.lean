import Testbed.Command.Invocation
import Testbed.Time.Calendar
import Testbed.Trace.Window

/-!
# Commands on traffic

This file supplies the commands that list trace messages, out of a file or as they
arrive.
-/

namespace Testbed.Command

open Testbed.Trace

/-! ## Messages in listings -/

/-- Kind and subtype of a message, the latter only by name. -/
def kindCell (frame : Frame) : String :=
  match frame.extended with
  | some header =>
      match header.kind.subtypeName? header.subtype with
      | some name => header.kind.name ++ " " ++ name
      | none => header.kind.name
  | none => "-"

/-- The date and time at which a message was stored. -/
def storedTime? (frame : Frame) : Option String :=
  (frame.storage.bind StorageHeader.time?).map fun moment =>
    renderTime moment.seconds moment.nanos

/-- The headings of a listing of messages. -/
def messageHeadings : List String :=
  ["#", "Time", "ECU", "APID", "CTID", "Type", "Payload"]

/-- A message in a listing; it has the time it was stored at or else its own. -/
def messageCells (frame : Frame) : List String :=
  let time :=
    ((storedTime? frame).or (frame.timestamp.map Frame.secondsFixed)).getD "-"
  [toString frame.counter.toNat, time, frame.ecu, frame.apid, frame.ctid,
   kindCell frame, frame.text]

/-- Ticks as a number of seconds. -/
def secondsDocument (ticks : UInt32) : Document :=
  .float (Decimal.Binary64.bitsOfDecimal false ticks.toNat (-4))

/-- A message as a document. -/
def messageDocument (frame : Frame) : Document :=
  .table
    [("counter", .nat frame.counter.toNat), ("time", .ofText? (storedTime? frame)),
     ("timestamp", (frame.timestamp.map secondsDocument).getD .null),
     ("ecu", .text frame.ecu), ("apid", .text frame.apid), ("ctid", .text frame.ctid),
     ("kind", .text (kindCell frame)), ("payload", .text frame.text)]

/-- A listing of messages. -/
def messageListing (frames : List Frame) : Listing :=
  .ofItems messageHeadings messageCells messageDocument frames

/-! ## Files -/

/-- The messages of a file. -/
def readFrames (files : FileTree) (file : String) : Result (List Frame) :=
  match files.read file with
  | .ok content => .ok (Decoder.frames .stored content)
  | .error fault => .error (.io fault.message)

/-- List messages of a file. -/
def listFile (files : FileTree) (format : Format) (file : String) (terms : List String)
    (limit : Option Nat) : Outcome :=
  .after (Query.ofTerms terms) fun query =>
    match readFrames files file with
    | .error error => .fail ("reading " ++ file ++ ": " ++ error.report)
    | .ok frames =>
        let selected := frames.filter query.selects
        let shown := selected.take (limit.getD selected.length)
        let summary :=
          infoLine (toString shown.length ++ " of " ++ toString frames.length
            ++ " frame(s) shown")
        .print ((messageListing shown).render format
          ++ if format = .table then summary else "")

/-! ## Captures -/

/-- The settings of a capture before its arguments change them. -/
def baseCapture (files : FileTree) (invocation : Invocation)
    (arguments : CaptureArguments) (scope : Option String) :
    Except String CaptureConfig :=
  match arguments.udp, arguments.tcp with
  | some own, _ => .ok (.udp own.address own.port)
  | none, some peer => .ok (.tcp peer)
  | none, none =>
      match RunConfig.load files invocation.config scope with
      | .error error => .error error.report
      | .ok config =>
          match config.trace with
          | some trace => .ok trace.capture
          | none =>
              .error ("no --udp/--tcp given and no [dlt] section in " ++ invocation.config)

/-- The settings with those that the arguments give. -/
def adjustCapture (arguments : CaptureArguments) (config : CaptureConfig) :
    CaptureConfig :=
  let config := arguments.multicast.foldl CaptureConfig.withMulticast config
  { config with
    filter := arguments.filter.or config.filter
    receiver :=
      match arguments.receiver with
      | some binary => .process binary none
      | none => config.receiver }

/-- Valid settings of a capture. -/
def captureConfig (files : FileTree) (invocation : Invocation)
    (arguments : CaptureArguments) (scope : Option String) :
    Except String CaptureConfig := do
  let config := adjustCapture arguments (← baseCapture files invocation arguments scope)
  (config.validate).mapError Error.report
  pure config

/-- Wait for enough frames, or as long as the capture goes on. -/
def awaitFrames (window : Window) (query : Query) (arguments : CaptureArguments) :
    Action Host Unit :=
  match arguments.count with
  | some count => discard (window.waitFor query count arguments.duration)
  | none => .change fun host => host.advanceTo (host.clock + arguments.duration)

/-- List the frames of a closed window; a wait that failed is reported then. -/
def captureOutcome (format : Format) (query : Query) (waited : Result Unit)
    (record : Record) : Outcome :=
  let matched := record.find (some query)
  let listing := (messageListing matched).render format
  match waited with
  | .error error => { printed := listing, failure := some error.report }
  | .ok () =>
      let summary :=
        successLine (toString record.size ++ " frame(s) captured, "
          ++ toString matched.length ++ " matched")
      .print (listing ++ if format = .table then summary else "")

/-- Capture with some settings. -/
def runCapture (format : Format) (config : CaptureConfig) (query : Query)
    (arguments : CaptureArguments) : Action Host Outcome := do
  let window ← Window.start config
  let waited ← (awaitFrames window query arguments).attempt
  let record ← window.close
  pure (captureOutcome format query waited record)

/-- List messages as they arrive. -/
def listTraffic (invocation : Invocation) (arguments : CaptureArguments)
    (scope : Option String) (host : Host) : Outcome × Host :=
  match captureConfig host.files invocation arguments scope with
  | .error reason => (.fail reason, host)
  | .ok config =>
      match Query.ofTerms arguments.terms with
      | .error error => (.fail error.report, host)
      | .ok query =>
          let (result, host) :=
            (runCapture invocation.format config query arguments).perform host
          (.after result id, host)

end Testbed.Command
