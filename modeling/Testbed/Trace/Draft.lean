import Testbed.Error
import Testbed.Trace.Decoder

/-!
# Messages to be encoded

This file supplies drafts of trace messages and their wire format.  A draft is
built by a chain of settings, the later of which win, and is encoded whole or
not at all: a message whose length does not fit its 16-bit field is refused.
-/

namespace Testbed.Trace

/-- What a draft carries. -/
inductive Body where
  | verbose (arguments : List Argument)
  | nonVerbose (messageId : UInt32) (data : Octets)
  deriving DecidableEq, Repr

/-- Kind and origin of a draft. -/
structure Origin where
  kind : MessageKind
  subtype : UInt8
  apid : String
  ctid : String
  deriving DecidableEq, Repr

/-- A message to be encoded. -/
structure Draft where
  storage : Option StorageHeader := none
  ecu : Option String := some "ECU1"
  counter : UInt8 := 0
  sessionId : Option UInt32 := none
  timestamp : Option UInt32 := none
  bigEndian : Bool := false
  origin : Option Origin
  body : Body := .verbose []
  deriving DecidableEq, Repr

namespace Draft

/-! ## Settings -/

/-- A verbose message without arguments. -/
def new (kind : MessageKind) (subtype : UInt8) (apid ctid : String) : Draft :=
  { origin := some ⟨kind, subtype, apid, ctid⟩ }

/-- A verbose log message without arguments. -/
def log (apid ctid : String) (level : LogLevel) : Draft :=
  new .log level.subtype apid ctid

/-- Without an extended header the payload is sent non-verbose. -/
def withoutExtendedHeader (draft : Draft) : Draft :=
  { draft with origin := none }

/-- Append an argument; a non-verbose body is replaced. -/
def argument (draft : Draft) (argument : Argument) : Draft :=
  match draft.body with
  | .verbose arguments => { draft with body := .verbose (arguments ++ [argument]) }
  | .nonVerbose .. => { draft with body := .verbose [argument] }

/-- Append several arguments. -/
def arguments (draft : Draft) (arguments : List Argument) : Draft :=
  match draft.body, arguments with
  | _, [] => draft
  | .verbose present, more => { draft with body := .verbose (present ++ more) }
  | .nonVerbose .., more => { draft with body := .verbose more }

/-- Append a text argument. -/
def text (draft : Draft) (text : String) : Draft :=
  draft.argument { value := .text text }

/-- Send a message identifier followed by opaque data. -/
def nonVerbose (draft : Draft) (messageId : UInt32) (data : Octets) : Draft :=
  { draft with body := .nonVerbose messageId data }

/-- Put a storage header in front, under the control unit named so far. -/
def storedAt (draft : Draft) (seconds : UInt32) (microseconds : Int32) : Draft :=
  { draft with storage := some ⟨seconds, microseconds, draft.ecu.getD ""⟩ }

/-! ## Encoding -/

/-- The order in which payload words are written. -/
def order (draft : Draft) : ByteOrder :=
  if draft.bigEndian then .big else .little

/-- The encoded payload. -/
def payload (draft : Draft) : Octets :=
  match draft.body with
  | .verbose arguments => arguments.flatMap (Argument.encode draft.order)
  | .nonVerbose messageId data => Octets.ofNat draft.order 4 messageId.toNat ++ data

/-- The flags that announce what the draft has. -/
def flags (draft : Draft) : HeaderFlags :=
  .ofPresence draft.origin.isSome draft.bigEndian draft.ecu.isSome
    draft.sessionId.isSome draft.timestamp.isSome

/-- The extended header that a draft is sent with. -/
def extended? (draft : Draft) : Option ExtendedHeader :=
  draft.origin.map fun origin =>
    { verbose :=
        match draft.body with
        | .verbose _ => true
        | .nonVerbose .. => false
      kind := origin.kind
      subtype := origin.subtype
      argumentCount :=
        match draft.body with
        | .verbose arguments => UInt8.ofNat (min arguments.length 255)
        | .nonVerbose .. => 0
      apid := origin.apid
      ctid := origin.ctid }

/-- Octets of the message, without a storage header. -/
def length (draft : Draft) : Nat :=
  draft.flags.headerLength + draft.payload.length

/-- The message, without a storage header, for a length that fits its field. -/
def message (draft : Draft) : Octets :=
  draft.flags.octet :: draft.counter
    :: (Octets.ofNat .big 2 draft.length
      ++ (draft.ecu.elim [] writeId)
      ++ (draft.sessionId.elim [] fun id => Octets.ofNat .big 4 id.toNat)
      ++ (draft.timestamp.elim [] fun ticks => Octets.ofNat .big 4 ticks.toNat)
      ++ (draft.extended?.elim [] ExtendedHeader.write)
      ++ draft.payload)

/-- Encode a draft, unless its length does not fit 16 bits. -/
def encode (draft : Draft) : Result Octets :=
  if draft.length < 0x10000 then
    .ok ((draft.storage.elim [] StorageHeader.write) ++ draft.message)
  else
    .error (.invalidConfig
      ("DLT message of " ++ toString draft.length ++ " bytes is too long"))

/-- Append an encoded draft to octets already written. -/
def encodeOnto (written : Octets) (draft : Draft) : Result Octets :=
  (written ++ ·) <$> draft.encode

/-! ## Streams -/

/-- The draft that an encoder of a stream writes: in a stored stream a draft
without storage header gets one with the present time. -/
def framed (framing : Framing) (seconds : UInt32) (microseconds : Int32)
    (draft : Draft) : Draft :=
  match framing, draft.storage with
  | .stored, none => draft.storedAt seconds microseconds
  | _, _ => draft

/-- A stream of drafts, refused when one of them is. -/
def encodeStream (framing : Framing) (seconds : UInt32) (microseconds : Int32)
    (drafts : List Draft) : Result Octets :=
  drafts.foldlM
    (fun written draft => encodeOnto written (draft.framed framing seconds microseconds)) []

end Draft

end Testbed.Trace
