import Testbed.Proofs.Trace.Drain
import Testbed.Proofs.Trace.Message

/-!
# Encoding and back

This file supplies the round trip of drafts through the decoder.  What is encoded
stands at the front of a buffer as one message, which is taken off by its length
field, whatever follows it.

Not everything arrives as it was set: identifiers are cut to four octets, texts at
their first zero, subtypes to four bits and the count of the arguments to one octet.
`Arrival` states for each field what becomes of it.
-/

namespace Testbed.Trace

namespace Draft

/-- The storage header and the message of a draft. -/
def wire (draft : Draft) : Octets :=
  draft.storage.elim [] StorageHeader.write ++ draft.message

/-- The frame that a draft arrives as. -/
def arriving (draft : Draft) : Frame :=
  (draft.arrivingWith (draft.storage.map StorageHeader.arriving)).1

theorem encode_eq_ok_iff (draft : Draft) (octets : Octets) :
    draft.encode = .ok octets ↔ draft.length < 0x10000 ∧ octets = draft.wire := by
  rw [encode]
  split
  next fits =>
    rw [Except.ok.injEq, wire]
    exact ⟨fun same => ⟨fits, same.symm⟩, fun both => both.2.symm⟩
  next tooLong => simp [tooLong]

/-! ## Lengths -/

theorem length_elim {α : Type} {write : α → Octets} {width : Nat}
    (counted : ∀ value, (write value).length = width) (value : Option α) :
    (value.elim [] write).length = if value.isSome then width else 0 := by
  cases value with
  | none => rfl
  | some value => exact counted value

/-- The length of a draft is that of its message. -/
theorem length_message (draft : Draft) : draft.message.length = draft.length := by
  obtain ⟨extended, -, ecu, session, timestamp, -⟩ := draft.flags_eq
  have announced : draft.extended?.isSome = draft.origin.isSome := Option.isSome_map
  simp only [message, length, HeaderFlags.headerLength, HeaderFlags.standardLength,
    List.length_cons, List.length_append, Octets.length_ofNat, length_elim length_writeId,
    length_elim ExtendedHeader.length_write, length_elim fun _ => Octets.length_ofNat ..,
    extended, ecu, session, timestamp, announced]
  omega

theorem length_wire (draft : Draft) :
    draft.wire.length = draft.framing.leadLength + draft.length := by
  rw [wire, List.length_append, length_message, framing, length_elim StorageHeader.length_write]
  cases draft.storage <;> rfl

theorem length_payload_le (draft : Draft) : draft.payload.length ≤ draft.length :=
  Nat.le_add_left ..

/-! ## Payloads -/

private theorem toNat_argumentCount (arguments : List Argument) :
    (UInt8.ofNat (min arguments.length 255)).toNat = min arguments.length 255 := by
  rw [UInt8.toNat_ofNat']
  exact Nat.mod_eq_of_lt (by omega)

/-- A verbose payload arrives with as many arguments as its header can count. -/
theorem readPayload_verbose {draft : Draft} {origin : Origin} {arguments : List Argument}
    (extended : draft.origin = some origin) (verbose : draft.body = .verbose arguments)
    (fits : draft.length < 0x10000) :
    let arrived := (arguments.take (min arguments.length 255)).map Argument.arriving
    Frame.readPayload draft.order (draft.extended?.map ExtendedHeader.arriving) draft.payload =
      ({ raw := draft.payload
         messageId := none
         arguments := arrived
         text := if arrived.isEmpty then none else some (Argument.renderMany arrived) }, none) := by
  intro arrived
  have octets : draft.payload = arguments.flatMap (Argument.encode draft.order) := by
    rw [payload, verbose]
  have decoded : Argument.decodeMany draft.order (min arguments.length 255) draft.payload =
      (arrived, none) := by
    have small := draft.length_payload_le
    rw [octets] at small ⊢
    have fit := Argument.lengthsFit_of_length_flatMap (Nat.lt_of_le_of_lt small fits)
    exact Argument.decodeMany_flatMap_encode draft.order (Nat.min_le_left ..) fit
  simp only [extended?, extended, verbose, Option.map_some, Frame.readPayload,
    ExtendedHeader.arriving, if_true, Payload.ofVerbose, toNat_argumentCount, decoded]
  rfl

/-- A payload without typed arguments arrives as an identifier and opaque data. -/
theorem readPayload_nonVerbose {draft : Draft} {messageId : UInt32} {data : Octets}
    (body : draft.body = .nonVerbose messageId data) :
    Frame.readPayload draft.order (draft.extended?.map ExtendedHeader.arriving) draft.payload =
      ({ raw := draft.payload
         messageId := some messageId
         arguments := []
         text := Payload.printable? data }, none) := by
  have octets : draft.payload = Octets.ofNat draft.order 4 messageId.toNat ++ data := by
    rw [payload, body]
  have split := splitExactly?_append (Octets.length_ofNat draft.order 4 messageId.toNat) data
  have opaqueData : Payload.ofNonVerbose draft.order draft.payload =
      { raw := draft.payload
        messageId := some messageId
        arguments := []
        text := Payload.printable? data } := by
    rw [Payload.ofNonVerbose, octets, split]
    simp only [ofNat_toNat_uint32]
  cases extended : draft.origin <;>
    simp [Frame.readPayload, extended?, extended, body, ExtendedHeader.arriving, opaqueData]

/-- Without an extended header no argument is looked for. -/
theorem readPayload_withoutExtended {draft : Draft} (extended : draft.origin = none) :
    Frame.readPayload draft.order (draft.extended?.map ExtendedHeader.arriving) draft.payload =
      (Payload.ofNonVerbose draft.order draft.payload, none) := by
  rw [extended?, extended]
  rfl

/-- Nothing keeps the arguments of an encoded draft from being decoded. -/
theorem arrivingWith_eq (draft : Draft) (fits : draft.length < 0x10000)
    (storage : Option StorageHeader) :
    draft.arrivingWith storage = ((draft.arrivingWith storage).1, none) := by
  have stopped : (Frame.readPayload draft.order (draft.extended?.map ExtendedHeader.arriving)
      draft.payload).2 = none := by
    cases extended : draft.origin with
    | none => rw [readPayload_withoutExtended extended]
    | some origin =>
        cases body : draft.body with
        | verbose arguments => rw [readPayload_verbose extended body fits]
        | nonVerbose messageId data => rw [readPayload_nonVerbose body]
  exact Prod.ext rfl stopped

end Draft

namespace Decoder

/-! ## Taking a message off a buffer -/

theorem align_wire (draft : Draft) (rest : Octets) :
    align draft.framing (draft.wire ++ rest) = ⟨draft.wire ++ rest, 0, [], true⟩ := by
  cases storage : draft.storage with
  | none =>
      rw [Draft.framing, storage]
      rfl
  | some header =>
      rw [Draft.framing, Draft.wire, storage]
      rfl

theorem peek?_wire (draft : Draft) (fits : draft.length < 0x10000) (rest : Octets) :
    peek? draft.framing.leadLength (draft.wire ++ rest) = some (draft.flags, draft.length) := by
  have header : ∀ behind, peek? 0 (draft.message ++ behind) = some (draft.flags, draft.length) := by
    intro behind
    simp only [Draft.message, Draft.big_octets, List.cons_append, peek?, List.drop_zero,
      Draft.toNat_length draft fits]
  have behindLead : (draft.wire ++ rest).drop draft.framing.leadLength = draft.message ++ rest := by
    cases storage : draft.storage with
    | none =>
        rw [Draft.framing, Draft.wire, storage]
        rfl
    | some stored =>
        rw [Draft.framing, Draft.wire, storage, List.append_assoc]
        exact List.drop_left' stored.length_write
  rw [← header rest, peek?, peek?, behindLead, List.drop_zero]

theorem readStorage?_wire (draft : Draft) (rest : Octets) :
    readStorage? draft.framing (draft.wire ++ rest) =
      some (draft.storage.map StorageHeader.arriving, draft.message ++ rest) := by
  cases storage : draft.storage with
  | none =>
      rw [Draft.framing, Draft.wire, storage]
      rfl
  | some stored =>
      rw [Draft.framing, Draft.wire, storage, List.append_assoc]
      simp only [Option.isSome_some, if_true, readStorage?, Option.elim_some,
        StorageHeader.read?_write]
      rfl

theorem takeMessage?_wire (draft : Draft) (fits : draft.length < 0x10000) (rest : Octets) :
    takeMessage? draft.framing draft.length (draft.wire ++ rest) =
      some ⟨some draft.arriving, rest, 0, []⟩ := by
  simp only [takeMessage?, readStorage?_wire, splitExactly?_append draft.length_message,
    Draft.read?_message draft fits, Option.bind_eq_bind, Option.bind_some]
  rw [Draft.arrivingWith_eq draft fits]
  rfl

/-- An encoded draft at the front of a buffer is the frame that is found next. -/
theorem decode_wire (draft : Draft) (fits : draft.length < 0x10000) (rest : Octets) :
    decode draft.framing (draft.wire ++ rest) = ⟨some draft.arriving, rest, 0, []⟩ := by
  have enough : draft.flags.headerLength ≤ draft.length := Nat.le_add_right ..
  have aligned := align_wire draft rest
  have turned : turn draft.framing (draft.wire ++ rest) =
      .stop ⟨some draft.arriving, rest, 0, []⟩ := by
    rw [turn_of_taken (by rw [aligned]) (by rw [aligned]; exact peek?_wire draft fits rest)
      enough (by rw [aligned]; exact takeMessage?_wire draft fits rest), aligned]
    rfl
  exact decode_of_stop turned

/-- A whole buffer with nothing but an encoded draft. -/
theorem decodeAll_wire (draft : Draft) (fits : draft.length < 0x10000) :
    decodeAll draft.framing 0 draft.wire = ⟨[draft.arriving], [], ⟨[], 0⟩⟩ := by
  have found := decode_wire draft fits []
  rw [List.append_nil] at found
  rw [decodeAll, decodeAvailable, drain]
  simp only [found, drain_nil, decodeAtEnd, decode_nil]
  rfl

end Decoder

/-! ## What becomes of a draft -/

namespace Body

/-- Whether the arguments are typed. -/
def isVerbose : Body → Bool
  | verbose _ => true
  | nonVerbose .. => false

/-- The typed arguments. -/
def arguments : Body → List Argument
  | verbose arguments => arguments
  | nonVerbose .. => []

end Body

/-- What a frame has of the draft that was sent as `octets`. -/
structure Arrival (draft : Draft) (octets : Octets) (frame : Frame) : Prop where
  version : frame.flags.version = 1
  counter : frame.counter = draft.counter
  sessionId : frame.sessionId = draft.sessionId
  timestamp : frame.timestamp = draft.timestamp
  isBigEndian : frame.flags.isBigEndian = draft.bigEndian
  hasExtended : frame.flags.hasExtended = draft.origin.isSome
  hasEcu : frame.flags.hasEcu = draft.ecu.isSome
  hasSession : frame.flags.hasSession = draft.sessionId.isSome
  hasTimestamp : frame.flags.hasTimestamp = draft.timestamp.isSome
  /-- The length counts the octets behind the storage header. -/
  length : octets.length = draft.framing.leadLength + frame.length.toNat
  headerEcu : frame.headerEcu = draft.ecu.map arrivingId
  storage : frame.storage = draft.storage.map fun header =>
    { header with ecu := arrivingId header.ecu }
  extended : frame.extended = draft.origin.map fun origin =>
    { verbose := draft.body.isVerbose
      kind := .ofCode origin.kind.code
      subtype := origin.subtype % 16
      argumentCount := UInt8.ofNat (min draft.body.arguments.length 255)
      apid := arrivingId origin.apid
      ctid := arrivingId origin.ctid }
  /-- The payload is the encoded body, octet for octet. -/
  raw : frame.payload.raw = draft.payload
  /-- The count of the arguments saturates. -/
  argumentCount : ∀ header, frame.extended = some header →
    header.argumentCount.toNat = min draft.body.arguments.length 255
  /-- Behind an extended header the arguments that are counted arrive in order. -/
  arguments : frame.payload.arguments =
    if draft.origin.isSome then
      (draft.body.arguments.take (min draft.body.arguments.length 255)).map Argument.arriving
    else []
  /-- Opaque data arrives behind its identifier. -/
  nonVerbose : ∀ messageId data, draft.body = .nonVerbose messageId data →
    frame.payload.messageId = some messageId ∧ frame.payload.data = data

namespace Draft

theorem extended?_arriving (draft : Draft) :
    draft.extended?.map ExtendedHeader.arriving = draft.origin.map fun origin =>
      { verbose := draft.body.isVerbose
        kind := .ofCode origin.kind.code
        subtype := origin.subtype % 16
        argumentCount := UInt8.ofNat (min draft.body.arguments.length 255)
        apid := arrivingId origin.apid
        ctid := arrivingId origin.ctid } := by
  rw [extended?, Option.map_map]
  cases body : draft.body <;> rfl

theorem payload_arriving (draft : Draft) :
    draft.arriving.payload =
      (Frame.readPayload draft.order (draft.extended?.map ExtendedHeader.arriving)
        draft.payload).1 :=
  rfl

private theorem arguments_arriving (draft : Draft) (fits : draft.length < 0x10000) :
    draft.arriving.payload.arguments =
      if draft.origin.isSome then
        (draft.body.arguments.take (min draft.body.arguments.length 255)).map Argument.arriving
      else [] := by
  rw [payload_arriving]
  cases extended : draft.origin with
  | none =>
      rw [readPayload_withoutExtended extended, Payload.ofNonVerbose]
      split <;> rfl
  | some origin =>
      cases body : draft.body with
      | verbose arguments =>
          rw [readPayload_verbose extended body fits]
          rfl
      | nonVerbose messageId data =>
          rw [readPayload_nonVerbose body]
          rfl

private theorem nonVerbose_arriving {draft : Draft} {messageId : UInt32} {data : Octets}
    (body : draft.body = .nonVerbose messageId data) :
    draft.arriving.payload.messageId = some messageId ∧ draft.arriving.payload.data = data := by
  have octets : draft.payload = Octets.ofNat draft.order 4 messageId.toNat ++ data := by
    rw [payload, body]
  rw [payload_arriving, readPayload_nonVerbose body]
  refine ⟨rfl, ?_⟩
  rw [Payload.data, octets]
  exact List.drop_left' (Octets.length_ofNat ..)

private theorem argumentCount_arriving (draft : Draft) (header : ExtendedHeader)
    (extended : draft.arriving.extended = some header) :
    header.argumentCount.toNat = min draft.body.arguments.length 255 := by
  have arrives := draft.extended?_arriving.symm.trans extended
  rcases Option.map_eq_some_iff.mp arrives with ⟨origin, -, same⟩
  rw [← same]
  exact toNat_argumentCount _

/-- A draft that fits the length field arrives as the frame it should. -/
theorem arrival (draft : Draft) (fits : draft.length < 0x10000) :
    Arrival draft draft.wire draft.arriving := by
  obtain ⟨extended, bigEndian, ecu, session, timestamp, version⟩ := draft.flags_eq
  exact
    { version
      counter := rfl
      sessionId := rfl
      timestamp := rfl
      isBigEndian := bigEndian
      hasExtended := extended
      hasEcu := ecu
      hasSession := session
      hasTimestamp := timestamp
      length := by
        have kept : (UInt16.ofNat draft.length).toNat = draft.length :=
          UInt16.toNat_ofNat_of_lt fits
        rw [draft.length_wire]
        exact congrArg _ kept.symm
      headerEcu := rfl
      storage := rfl
      extended := draft.extended?_arriving
      raw := Frame.readPayload_raw ..
      argumentCount := draft.argumentCount_arriving
      arguments := draft.arguments_arriving fits
      nonVerbose := fun _ _ body => nonVerbose_arriving body }

end Draft

/-- What is encoded is decoded again: exactly one frame comes of an encoded draft, no
octet is skipped or left, nothing is worth a notice, and the frame has of the draft
what `Arrival` says. -/
theorem decodeAll_encode (draft : Draft) (octets : Octets)
    (encoded : draft.encode = .ok octets) :
    ∃ frame, Decoder.decodeAll draft.framing 0 octets = ⟨[frame], [], ⟨[], 0⟩⟩ ∧
      Arrival draft octets frame := by
  obtain ⟨fits, rfl⟩ := (draft.encode_eq_ok_iff octets).mp encoded
  exact ⟨draft.arriving, Decoder.decodeAll_wire draft fits, draft.arrival fits⟩

/-- A log message with a storage header and a named number. -/
theorem decodeAll_encode_log :
    let draft : Draft := (Draft.log "APP1" "CTX1" .info).argument
      { name := some "n", value := .unsigned 3 } |>.storedAt 7 (-1)
    ∃ octets, draft.encode = .ok octets ∧ octets.length = 49 ∧
      ∃ frame, Decoder.decodeAll draft.framing 0 octets = ⟨[frame], [], ⟨[], 0⟩⟩ ∧
        Arrival draft octets frame := by
  intro draft
  have encoded : draft.encode = .ok draft.wire :=
    (draft.encode_eq_ok_iff draft.wire).mpr ⟨by decide, rfl⟩
  exact ⟨draft.wire, encoded, by decide, decodeAll_encode draft draft.wire encoded⟩

end Testbed.Trace
