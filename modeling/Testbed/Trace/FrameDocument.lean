import Testbed.Document
import Testbed.Trace.Frame

/-!
# Frames as documents

This file supplies the document form of a decoded frame: every header field by
name, absent fields as null, and the payload without its raw octets.
-/

namespace Testbed.Trace

/-- A number that may be absent. -/
def wordDocument (word : Option UInt32) : Document :=
  match word with
  | some word => .nat word.toNat
  | none => .null

/-- A storage header as a document. -/
def StorageHeader.toDocument (header : StorageHeader) : Document :=
  .table
    [("seconds", .nat header.seconds.toNat),
     ("microseconds", .int header.microseconds.toInt),
     ("ecu", .text header.ecu)]

/-- A kind as its word, or as its number if it has none. -/
def MessageKind.toDocument : MessageKind → Document
  | unknown code => .table [("unknown", .nat code.toNat)]
  | kind => .text kind.name

/-- An extended header as a document. -/
def ExtendedHeader.toDocument (header : ExtendedHeader) : Document :=
  .table
    [("verbose", .bool header.verbose),
     ("message_type", header.kind.toDocument),
     ("subtype", .nat header.subtype.toNat),
     ("argument_count", .nat header.argumentCount.toNat),
     ("apid", .text header.apid),
     ("ctid", .text header.ctid)]

/-- A value under the name of its type. -/
def Value.toDocument : Value → Document
  | bool value => .table [("bool", .bool value)]
  | signed value => .table [("signed", .int value.toInt)]
  | unsigned value => .table [("unsigned", .nat value.toNat)]
  | float bits => .table [("float", .float bits)]
  | text value => .table [("string", .text value)]
  | raw data => .table [("raw", .text (Text.Hex.encode data))]

/-- An argument as a document. -/
def Argument.toDocument (argument : Argument) : Document :=
  .table
    [("name", .ofText? argument.name),
     ("unit", .ofText? argument.unit),
     ("value", argument.value.toDocument)]

/-- A payload as a document. -/
def Payload.toDocument (payload : Payload) : Document :=
  .table
    [("message_id", wordDocument payload.messageId),
     ("arguments", .list (payload.arguments.map Argument.toDocument)),
     ("text", .ofText? payload.text)]

/-- A frame as a document. -/
def Frame.toDocument (frame : Frame) : Document :=
  .table
    [("storage", (frame.storage.map StorageHeader.toDocument).getD .null),
     ("header_type", .nat frame.flags.octet.toNat),
     ("counter", .nat frame.counter.toNat),
     ("length", .nat frame.length.toNat),
     ("ecu", .ofText? frame.headerEcu),
     ("session_id", wordDocument frame.sessionId),
     ("timestamp", wordDocument frame.timestamp),
     ("extended", (frame.extended.map ExtendedHeader.toDocument).getD .null),
     ("payload", frame.payload.toDocument)]

end Testbed.Trace
