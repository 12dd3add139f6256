import Testbed.Script.Basic
import Testbed.Trace.Draft
import Testbed.Trace.FrameDocument

/-!
# Frames in scripts

This file supplies the frames of scripts, written as octets or as drafts, and the
full description of a frame as a document.
-/

namespace Testbed.Script

open Testbed.Trace

/-! ## Frames -/

/-- The bits of a number in hexadecimal digits; every not-a-number is the same. -/
def floatText (bits : UInt64) : String :=
  match Decimal.Binary64.ofBits bits with
  | .notANumber => "nan"
  | _ => String.ofList (Text.Hex.fixed 16 bits.toNat)

/-- A value under the word for its kind. -/
def valueAnswer : Value → Document
  | .bool value => .table [("bool", .bool value)]
  | .signed value => .table [("signed", .text (toString value.toInt))]
  | .unsigned value => .table [("unsigned", .text (toString value.toNat))]
  | .float bits => .table [("float", .text (floatText bits))]
  | .text value => .table [("string", .text value)]
  | .raw data => .table [("raw", .text (Text.Hex.encode data))]

/-- An argument with the text of its value. -/
def argumentAnswer (argument : Argument) : Document :=
  .table
    [("name", .ofText? argument.name), ("unit", .ofText? argument.unit),
     ("value", valueAnswer argument.value), ("text", .text argument.value.render)]

/-- A value, or null. -/
def optional {α : Type} (encode : α → Document) (value : Option α) : Document :=
  (value.map encode).getD .null

/-- A storage header; of one whose time came from the clock only the identifier. -/
def storageAnswer (clock : Bool) (header : StorageHeader) : Document :=
  if clock then
    .text header.ecu
  else
    .table
      [("seconds", .nat header.seconds.toNat),
       ("microseconds", .int header.microseconds.toInt),
       ("ecu", .text header.ecu),
       ("time", optional (fun (moment : Moment) =>
          .list [.nat moment.seconds, .nat moment.nanos]) header.time?)]

/-- An extended header. -/
def extendedAnswer (header : ExtendedHeader) : Document :=
  .table
    [("verbose", .bool header.verbose), ("type", .text header.kind.name),
     ("subtype", .nat header.subtype.toNat),
     ("argument_count", .nat header.argumentCount.toNat),
     ("apid", .text header.apid), ("ctid", .text header.ctid)]

/-- All that can be known of a frame. -/
def frameAnswer (clock : Bool) (frame : Frame) : Document :=
  .table
    [("storage", optional (storageAnswer clock) frame.storage),
     ("header_type", .nat frame.flags.octet.toNat),
     ("version", .nat frame.flags.version.toNat),
     ("big_endian", .bool frame.flags.isBigEndian),
     ("counter", .nat frame.counter.toNat),
     ("length", .nat frame.length.toNat),
     ("ecu", .text frame.ecu),
     ("session_id", wordDocument frame.sessionId),
     ("timestamp", wordDocument frame.timestamp),
     ("timestamp_secs", .ofText? (frame.timestamp.map Frame.secondsText)),
     ("verbose", .bool frame.isVerbose),
     ("extended", optional extendedAnswer frame.extended),
     ("level", .ofText? (frame.level?.map LogLevel.name)),
     ("message_id", wordDocument frame.payload.messageId),
     ("raw", .text (Text.Hex.encode frame.payload.raw)),
     ("data_len", .nat frame.payload.data.length),
     ("arguments", .list (frame.payload.arguments.map argumentAnswer)),
     ("payload_text", .ofText? frame.payload.text),
     ("text", .text frame.text),
     ("display", .text frame.render)]

/-! ## Drafts -/

/-- The bits that hexadecimal digits denote. -/
def readBits (document : Document) : UInt64 :=
  let written := asText document
  if written = "nan" then
    0x7ff8000000000000
  else
    UInt64.ofNat (written.toList.foldl
      (fun value digit => value * 16 + (Text.Hex.digitValue? digit).getD 0) 0)

/-- The value under the word for its kind. -/
def readValue : Document → Value
  | .table ((kind, value) :: _) =>
      if kind = "bool" then .bool (asBool value)
      else if kind = "signed" then .signed (Int64.ofInt (asInt value))
      else if kind = "unsigned" then .unsigned (UInt64.ofNat (asNat value))
      else if kind = "float" then .float (readBits value)
      else if kind = "string" then .text (asText value)
      else .raw (asOctets value)
  | _ => .bool false

/-- The argument that a script describes. -/
def readArgument (document : Document) : Argument :=
  { name := (field? document "name").map asText
    unit := (field? document "unit").map asText
    value := readValue (field document "value") }

/-- Change a draft as a step says. -/
def draftStep (draft : Draft) (step : Document) : Draft :=
  match step with
  | .list [.text "ecu", value] => { draft with ecu := some (asText value) }
  | .list [.text "without_ecu"] => { draft with ecu := none }
  | .list [.text "counter", value] => { draft with counter := UInt8.ofNat (asNat value) }
  | .list [.text "session_id", value] =>
      { draft with sessionId := some (UInt32.ofNat (asNat value)) }
  | .list [.text "timestamp", value] =>
      { draft with timestamp := some (UInt32.ofNat (asNat value)) }
  | .list [.text "big_endian", value] => { draft with bigEndian := asBool value }
  | .list [.text "without_extended_header"] => draft.withoutExtendedHeader
  | .list [.text "arg", value] => draft.argument { value := readValue value }
  | .list [.text "argument", value] => draft.argument (readArgument value)
  | .list [.text "args_repeat", value, count] =>
      draft.arguments (List.replicate (asNat count) { value := readValue value })
  | .list [.text "text", value] => draft.text (asText value)
  | .list [.text "non_verbose", id, data] =>
      draft.nonVerbose (UInt32.ofNat (asNat id)) (asOctets data)
  | .list [.text "storage_header", seconds, micros] =>
      draft.storedAt (UInt32.ofNat (asNat seconds)) (Int32.ofInt (asInt micros))
  | _ => draft

/-- The draft that a script describes. -/
def readDraft (request : Document) : Draft :=
  let apid := asText (field request "apid")
  let ctid := asText (field request "ctid")
  let base :=
    match field? request "level" with
    | some level =>
        Draft.log apid ctid ((LogLevel.ofName? (asText level)).getD .info)
    | none =>
        Draft.new (.ofCode (UInt8.ofNat (asNat (field request "type"))))
          (UInt8.ofNat (asNat (field request "subtype"))) apid ctid
  (items request "steps").foldl draftStep base

/-- The framing of a stream with or without storage headers. -/
def framingOf (stored : Bool) : Framing :=
  if stored then .stored else .bare

/-- The frames that a frame input denotes. -/
def readFrames (input : Document) : Except Document (List Frame) :=
  match input with
  | .text _ | .list _ => .ok (Decoder.frames .bare (asOctets input))
  | input =>
      match field? input "storage" with
      | some octets => .ok (Decoder.frames .stored (asOctets octets))
      | none => do
          let draft := readDraft input
          let octets ← orAnswer draft.encode
          pure (Decoder.frames (framingOf draft.storage.isSome) octets)

/-- The frames that all the frame inputs under a key denote. -/
def readAllFrames (request : Document) (key : String) : Except Document (List Frame) :=
  List.flatten <$> (items request key).mapM readFrames

end Testbed.Script
