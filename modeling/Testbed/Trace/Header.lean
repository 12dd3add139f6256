import Testbed.Text.Utf8

/-!
# Message headers of the trace protocol

This file supplies the headers in front of a diagnostic log and trace payload:
the storage header that loggers and files put first, the flags of the standard
header with the optional fields they announce, and the extended header that
names the kind of message and its origin.

Identifiers occupy four octets on the wire.  Reading cuts one at its first NUL;
writing pads it with NULs and drops what does not fit.
-/

namespace Testbed.Trace

/-! ## Identifiers -/

/-- The identifier held by a four-octet field. -/
def readId (field : Octets) : String :=
  Text.Utf8.decode (field.takeWhile (· ≠ 0))

/-- The four octets of an identifier. -/
def writeId (id : String) : Octets :=
  let kept := (Text.Utf8.encode id).take 4
  kept ++ List.replicate (4 - kept.length) 0

@[simp]
theorem length_writeId (id : String) : (writeId id).length = 4 := by
  simp only [writeId, List.length_append, List.length_replicate, List.length_take]
  omega

/-! ## Storage header -/

/-- The octets that open every storage header: `DLT` and a one. -/
def storageMark : Octets :=
  [0x44, 0x4C, 0x54, 0x01]

/-- Octets of a storage header. -/
def storageLength : Nat :=
  16

/-- Reception time and origin recorded by a logger. -/
structure StorageHeader where
  seconds : UInt32
  microseconds : Int32
  ecu : String
  deriving DecidableEq, Repr

/-- A moment in whole seconds since the epoch and nanoseconds past them. -/
structure Moment where
  seconds : Nat
  nanos : Nat
  deriving DecidableEq, Repr

namespace StorageHeader

/-- Read the storage header at the front of `octets`. -/
def read? (octets : Octets) : Option (StorageHeader × Octets) := do
  let (_, rest) ← splitExactly? 4 octets
  let (seconds, rest) ← splitExactly? 4 rest
  let (microseconds, rest) ← splitExactly? 4 rest
  let (ecu, rest) ← splitExactly? 4 rest
  pure
    ({ seconds := UInt32.ofNat (Octets.toNat .little seconds)
       microseconds := (UInt32.ofNat (Octets.toNat .little microseconds)).toInt32
       ecu := readId ecu }, rest)

/-- The octets of a storage header. -/
def write (header : StorageHeader) : Octets :=
  storageMark
    ++ Octets.ofNat .little 4 header.seconds.toNat
    ++ Octets.ofNat .little 4 header.microseconds.toUInt32.toNat
    ++ writeId header.ecu

/-- The reception time, if the header holds one.  A second of `10 ^ 9`
nanoseconds or more is a leap second and stands at the end of a minute. -/
def time? (header : StorageHeader) : Option Moment :=
  let nanos := header.microseconds.toInt * 1000
  if nanos < 0 ∨ 0x100000000 ≤ nanos then
    none
  else
    let moment : Moment := ⟨header.seconds.toNat, nanos.toNat⟩
    if moment.nanos < 1000000000 then
      some moment
    else if moment.nanos < 2000000000 ∧ moment.seconds % 60 = 59 then
      some moment
    else
      none

end StorageHeader

/-! ## Standard header -/

/-- The flag octet of a standard header. -/
structure HeaderFlags where
  octet : UInt8
  deriving DecidableEq, Repr

namespace HeaderFlags

/-- Whether an extended header follows. -/
def hasExtended (flags : HeaderFlags) : Bool :=
  flags.octet &&& 0x01 != 0

/-- Payload words are written most significant octet first. -/
def isBigEndian (flags : HeaderFlags) : Bool :=
  flags.octet &&& 0x02 != 0

/-- Whether the identifier of the control unit follows. -/
def hasEcu (flags : HeaderFlags) : Bool :=
  flags.octet &&& 0x04 != 0

/-- Whether a session number follows. -/
def hasSession (flags : HeaderFlags) : Bool :=
  flags.octet &&& 0x08 != 0

/-- Whether a timestamp follows. -/
def hasTimestamp (flags : HeaderFlags) : Bool :=
  flags.octet &&& 0x10 != 0

/-- Protocol version, in the three highest bits. -/
def version (flags : HeaderFlags) : UInt8 :=
  flags.octet >>> 5

/-- The order of the words in the payload. -/
def payloadOrder (flags : HeaderFlags) : ByteOrder :=
  if flags.isBigEndian then .big else .little

/-- Octets of the standard header, its optional fields included. -/
def standardLength (flags : HeaderFlags) : Nat :=
  4 + (if flags.hasEcu then 4 else 0)
    + (if flags.hasSession then 4 else 0)
    + (if flags.hasTimestamp then 4 else 0)

/-- Octets of all headers of a message. -/
def headerLength (flags : HeaderFlags) : Nat :=
  flags.standardLength + (if flags.hasExtended then 10 else 0)

/-- The flags of a message of protocol version 1. -/
def ofPresence (extended bigEndian ecu session timestamp : Bool) : HeaderFlags :=
  ⟨(0x20 : UInt8) ||| (if extended then 0x01 else 0) ||| (if bigEndian then 0x02 else 0)
    ||| (if ecu then 0x04 else 0) ||| (if session then 0x08 else 0)
    ||| (if timestamp then 0x10 else 0)⟩

end HeaderFlags

/-! ## Extended header -/

/-- The kind of a message. -/
inductive MessageKind where
  | log
  | applicationTrace
  | networkTrace
  | control
  | unknown (code : UInt8)
  deriving DecidableEq, Repr

namespace MessageKind

/-- The kind of a code; codes without a name are kept. -/
def ofCode (code : UInt8) : MessageKind :=
  if code = 0 then .log
  else if code = 1 then .applicationTrace
  else if code = 2 then .networkTrace
  else if code = 3 then .control
  else .unknown code

/-- The three bits by which a kind is written. -/
def code : MessageKind → UInt8
  | log => 0
  | applicationTrace => 1
  | networkTrace => 2
  | control => 3
  | unknown code => code &&& 0x07

/-- Names of the standardised subtypes, from subtype 1 on. -/
def subtypeNames : MessageKind → List String
  | log => ["fatal", "error", "warn", "info", "debug", "verbose"]
  | applicationTrace => ["variable", "function_in", "function_out", "state", "vfb"]
  | networkTrace => ["ipc", "can", "flexray", "most", "ethernet", "someip"]
  | control => ["request", "response", "time"]
  | unknown _ => []

/-- The name of a subtype, if it is standardised. -/
def subtypeName? (kind : MessageKind) (subtype : UInt8) : Option String :=
  if subtype = 0 then none else kind.subtypeNames[subtype.toNat - 1]?

/-- The text of a kind. -/
def name : MessageKind → String
  | log => "log"
  | applicationTrace => "app_trace"
  | networkTrace => "nw_trace"
  | control => "control"
  | unknown code => toString code.toNat

end MessageKind

/-- Severity of a log message. -/
inductive LogLevel where
  | fatal
  | error
  | warn
  | info
  | debug
  | verbose
  deriving DecidableEq, Repr

namespace LogLevel

/-- Every level, in the order of the subtypes that write them. -/
def all : List LogLevel :=
  [fatal, error, warn, info, debug, verbose]

/-- The subtype by which a level is written. -/
def subtype : LogLevel → UInt8
  | fatal => 1
  | error => 2
  | warn => 3
  | info => 4
  | debug => 5
  | verbose => 6

/-- The level of a subtype, if it is one. -/
def ofSubtype? (subtype : UInt8) : Option LogLevel :=
  all.find? (·.subtype = subtype)

/-- The word for a level. -/
def name : LogLevel → String
  | fatal => "fatal"
  | error => "error"
  | warn => "warn"
  | info => "info"
  | debug => "debug"
  | verbose => "verbose"

/-- The level of a word, if it is one. -/
def ofName? (name : String) : Option LogLevel :=
  all.find? (·.name = name)

end LogLevel

/-- Kind and origin of a message. -/
structure ExtendedHeader where
  verbose : Bool
  kind : MessageKind
  subtype : UInt8
  argumentCount : UInt8
  apid : String
  ctid : String
  deriving DecidableEq, Repr

namespace ExtendedHeader

/-- The octet that holds verbosity, kind and subtype. -/
def messageInfo (header : ExtendedHeader) : UInt8 :=
  (if header.verbose then (1 : UInt8) else 0) ||| (header.kind.code <<< 1)
    ||| (header.subtype <<< 4)

/-- Read the extended header at the front of `octets`. -/
def read? : Octets → Option (ExtendedHeader × Octets)
  | info :: count :: octets => do
      let (apid, rest) ← splitExactly? 4 octets
      let (ctid, rest) ← splitExactly? 4 rest
      pure
        ({ verbose := info &&& 0x01 != 0
           kind := .ofCode ((info >>> 1) &&& 0x07)
           subtype := info >>> 4
           argumentCount := count
           apid := readId apid
           ctid := readId ctid }, rest)
  | _ => none

/-- The octets of an extended header. -/
def write (header : ExtendedHeader) : Octets :=
  header.messageInfo :: header.argumentCount
    :: (writeId header.apid ++ writeId header.ctid)

@[simp]
theorem length_write (header : ExtendedHeader) : header.write.length = 10 := by
  simp [write]

end ExtendedHeader

end Testbed.Trace
