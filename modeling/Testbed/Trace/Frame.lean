import Testbed.Time.Span
import Testbed.Trace.Argument
import Testbed.Trace.Header

/-!
# Decoded trace messages

This file supplies the frame, a decoded trace message, with the reading of one
complete message from its octets and the text that log viewers show for it.

Every field is read exactly: a read that would pass the end of the message
yields no frame.  `Decoder` only hands over messages that hold all the headers
their flags announce.
-/

namespace Testbed.Trace

/-- A decoded payload. -/
structure Payload where
  /-- The octets exactly as received. -/
  raw : Octets
  /-- Message identifier of a non-verbose payload. -/
  messageId : Option UInt32
  arguments : List Argument
  /-- Printable rendering, when the payload has one. -/
  text : Option String
  deriving DecidableEq, Repr

namespace Payload

/-- Octets after the message identifier, or all where there is none. -/
def data (payload : Payload) : Octets :=
  match payload.messageId with
  | some _ => payload.raw.drop 4
  | none => payload.raw

/-- Whether an octet is shown as it is: visible ASCII, a blank, or a tab or line
break. -/
def isPrintable (octet : UInt8) : Bool :=
  (0x20 ≤ octet && octet ≤ 0x7E) || octet = 0x09 || octet = 0x0A || octet = 0x0D

/-- Opaque data as text, if all of it up to trailing NULs is printable. -/
def printable? (data : Octets) : Option String :=
  let kept := (data.reverse.dropWhile (· = 0)).reverse
  if kept.isEmpty || !kept.all isPrintable then none
  else some (Text.Utf8.decode kept)

end Payload

/-- Why the arguments of a verbose message were cut short. -/
structure ArgumentsStopped where
  apid : String
  ctid : String
  decoded : Nat
  announced : Nat
  fault : ArgumentFault
  deriving DecidableEq, Repr

namespace Payload

/-- Decode a verbose payload. -/
def ofVerbose (order : ByteOrder) (header : ExtendedHeader) (raw : Octets) :
    Payload × Option ArgumentsStopped :=
  let (arguments, fault) := Argument.decodeMany order header.argumentCount.toNat raw
  ({ raw
     messageId := none
     arguments
     text := if arguments.isEmpty then none else some (Argument.renderMany arguments) },
   fault.map fun fault =>
     { apid := header.apid
       ctid := header.ctid
       decoded := arguments.length
       announced := header.argumentCount.toNat
       fault })

/-- Decode a non-verbose payload. -/
def ofNonVerbose (order : ByteOrder) (raw : Octets) : Payload :=
  match splitExactly? 4 raw with
  | some (id, data) =>
      { raw
        messageId := some (UInt32.ofNat (Octets.toNat order id))
        arguments := []
        text := printable? data }
  | none => { raw, messageId := none, arguments := [], text := none }

end Payload

/-- One decoded trace message. -/
structure Frame where
  storage : Option StorageHeader
  flags : HeaderFlags
  counter : UInt8
  /-- Octets of the message, headers included. -/
  length : UInt16
  headerEcu : Option String
  sessionId : Option UInt32
  /-- Time since start-up in ticks of 0.1 ms. -/
  timestamp : Option UInt32
  extended : Option ExtendedHeader
  payload : Payload
  deriving DecidableEq, Repr

namespace Frame

/-! ## Reading a message -/

/-- Read an optional four-octet field. -/
def readField? (present : Bool) (octets : Octets) :
    Option (Option Octets × Octets) :=
  if present then
    (splitExactly? 4 octets).map fun (field, rest) => (some field, rest)
  else
    some (none, octets)

/-- Read the extended header, if it is announced. -/
def readExtended? (present : Bool) (octets : Octets) :
    Option (Option ExtendedHeader × Octets) :=
  if present then
    (ExtendedHeader.read? octets).map fun (header, rest) => (some header, rest)
  else
    some (none, octets)

/-- Decode a payload as its extended header says. -/
def readPayload (order : ByteOrder) (extended : Option ExtendedHeader) (raw : Octets) :
    Payload × Option ArgumentsStopped :=
  match extended with
  | some header =>
      if header.verbose then
        Payload.ofVerbose order header raw
      else
        (Payload.ofNonVerbose order raw, none)
  | none => (Payload.ofNonVerbose order raw, none)

/-- Read one message, from its standard header to its end. -/
def read? (storage : Option StorageHeader) (message : Octets) :
    Option (Frame × Option ArgumentsStopped) :=
  match message with
  | octet :: counter :: high :: low :: rest => do
      let flags : HeaderFlags := ⟨octet⟩
      let (ecu, rest) ← readField? flags.hasEcu rest
      let (session, rest) ← readField? flags.hasSession rest
      let (timestamp, rest) ← readField? flags.hasTimestamp rest
      let (extended, raw) ← readExtended? flags.hasExtended rest
      let (payload, stopped) := readPayload flags.payloadOrder extended raw
      pure
        ({ storage
           flags
           counter
           length := UInt16.ofNat (Octets.toNat .big [high, low])
           headerEcu := ecu.map readId
           sessionId := session.map fun field => UInt32.ofNat (Octets.toNat .big field)
           timestamp := timestamp.map fun field => UInt32.ofNat (Octets.toNat .big field)
           extended
           payload }, stopped)
  | _ => none

/-! ## Views -/

/-- The identifier of the control unit: the one in the standard header, else the
one in the storage header, else nothing. -/
def ecu (frame : Frame) : String :=
  match frame.headerEcu, frame.storage with
  | some ecu, _ => ecu
  | none, some storage => storage.ecu
  | none, none => ""

/-- The application identifier; empty without an extended header. -/
def apid (frame : Frame) : String :=
  match frame.extended with
  | some header => header.apid
  | none => ""

/-- The context identifier; empty without an extended header. -/
def ctid (frame : Frame) : String :=
  match frame.extended with
  | some header => header.ctid
  | none => ""

/-- Whether the payload has typed arguments. -/
def isVerbose (frame : Frame) : Bool :=
  frame.extended.any (·.verbose)

/-- The severity of a log message. -/
def level? (frame : Frame) : Option LogLevel :=
  frame.extended.bind fun header =>
    if header.kind = .log then LogLevel.ofSubtype? header.subtype else none

/-- Payload text, or the payload data read as text. -/
def text (frame : Frame) : String :=
  frame.payload.text.getD (Text.Utf8.decode frame.payload.data)

/-! ## Text -/

/-- Ticks in seconds, with the digits of the fraction that are needed. -/
def secondsText (ticks : UInt32) : String :=
  Span.renderFraction (ticks.toNat / 10000) (ticks.toNat % 10000) 4

/-- Ticks in seconds, with four places. -/
def secondsFixed (ticks : UInt32) : String :=
  toString (ticks.toNat / 10000) ++ "."
    ++ String.ofList (Span.paddedDigits 4 (ticks.toNat % 10000))

/-- A text with blanks behind it up to `width` characters. -/
def padRight (width : Nat) (text : String) : String :=
  text ++ String.ofList (List.replicate (width - text.length) ' ')

/-- A text with blanks in front of it up to `width` characters. -/
def padLeft (width : Nat) (text : String) : String :=
  String.ofList (List.replicate (width - text.length) ' ') ++ text

/-- Kind and subtype, the latter by name where it has one. -/
def kindText (frame : Frame) : String :=
  match frame.extended with
  | some header =>
      header.kind.name ++ " "
        ++ (header.kind.subtypeName? header.subtype).getD
          (toString header.subtype.toNat)
  | none => "-"

/-- The line that log viewers show. -/
def render (frame : Frame) : String :=
  " ".intercalate
    [(frame.timestamp.map secondsFixed).getD "-",
     padLeft 3 (toString frame.counter.toNat),
     frame.ecu,
     padRight 4 frame.apid,
     padRight 4 frame.ctid,
     frame.kindText,
     frame.text]

end Frame

end Testbed.Trace
