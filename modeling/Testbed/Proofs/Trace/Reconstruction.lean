import Testbed.Proofs.Trace.Accounting
import Testbed.Proofs.Trace.Argument
import Testbed.Proofs.Trace.Message

/-!
# Messages from their frames

This file supplies the way back from a frame to the octets it was read from.  A frame keeps
the fields of its headers and the raw payload, and its flags tell where each field stood, so
the message can be written again field by field.

An identifier alone is kept as text, in which octets behind a zero and octets that are no text
are lost.  Where the identifier fields hold texts padded with zeros, what is written again is
the message itself.
-/

namespace Testbed

/-- The octets of a word are written again from its number, which fits them. -/
theorem ofNat_toNat_mod (order : ByteOrder) {width : Nat} {field : Octets}
    (counted : field.length = width) :
    Octets.ofNat order width (Octets.toNat order field % Octets.valueCount width) = field := by
  rw [Trace.Argument.ofNat_mod, ← counted, Octets.ofNat_toNat]

theorem ofNat_toNat_of_length (order : ByteOrder) {field : Octets} (four : field.length = 4) :
    Octets.ofNat order 4 (UInt32.ofNat (Octets.toNat order field)).toNat = field := by
  rw [UInt32.toNat_ofNat']
  exact ofNat_toNat_mod order four

/-- What stands behind known octets is found by their number. -/
theorem take_drop_append {α : Type} {passed count : Nat} {front field : List α}
    (before : front.length = passed) (counted : field.length = count) (rest : List α) :
    ((front ++ (field ++ rest)).drop passed).take count = field := by
  rw [List.drop_left' before, List.take_left' counted]

namespace Trace

/-! ## Identifiers -/

/-- A field holds a text without NULs, and zeros behind it. -/
def IsPadded (field : Octets) : Prop :=
  ∃ (text : String) (count : Nat), '\x00' ∉ text.toList ∧
    field = Text.Utf8.encode text ++ List.replicate count 0

/-- A padded identifier is written again as it was read. -/
theorem writeId_readId {field : Octets} (four : field.length = 4) (padded : IsPadded field) :
    writeId (readId field) = field := by
  rcases padded with ⟨text, count, noNul, rfl⟩
  have kept : (Text.Utf8.encode text).takeWhile (· ≠ 0) = Text.Utf8.encode text := by
    rw [← takeWhile_append_zeros _ 1, List.replicate_one, Text.Utf8.takeWhile_encode_append,
      Text.Utf8.cutAtNul_of_not_mem noNul]
  rw [readId, takeWhile_append_zeros, kept, Text.Utf8.decode_encode]
  rw [List.length_append, List.length_replicate] at four
  rw [writeId, List.take_of_length_le (by omega), ← four, Nat.add_sub_cancel_left]

/-- Octets behind a zero leave no trace in an identifier. -/
example : readId [0x41, 0, 0x42, 0] = readId [0x41, 0, 0, 0] := by decide

/-- The octets of the identifiers of a message, each at the place that the flags give it. -/
def messageIds (message : Octets) : List Octets :=
  match message with
  | octet :: _ =>
      let flags : HeaderFlags := ⟨octet⟩
      (if flags.hasEcu then [(message.drop 4).take 4] else [])
        ++ (if flags.hasExtended then
            [(message.drop (flags.standardLength + 2)).take 4,
             (message.drop (flags.standardLength + 6)).take 4]
          else [])
  | [] => []

/-- The octets of all identifiers, that of the storage header included. -/
def wireIds (framing : Framing) (octets : Octets) : List Octets :=
  match framing with
  | .bare => messageIds octets
  | .stored => (octets.drop 12).take 4 :: messageIds (octets.drop storageLength)

/-! ## Storage headers -/

theorem StorageHeader.write_of_read? {octets rest : Octets} {header : StorageHeader}
    (read : read? octets = some (header, rest)) (mark : storageMark <+: octets)
    (padded : IsPadded ((octets.drop 12).take 4)) : header.write ++ rest = octets := by
  simp only [read?, Option.bind_eq_bind, Option.bind_eq_some_iff, Prod.exists,
    splitExactly?_eq_some_iff] at read
  rcases read with ⟨first, _, ⟨rfl, firstFour⟩, seconds, _, ⟨rfl, secondsFour⟩,
    microseconds, _, ⟨rfl, microsecondsFour⟩, ecu, _, ⟨rfl, ecuFour⟩, same⟩
  cases same
  have isMark : first = storageMark := by
    rw [List.prefix_iff_eq_take.mp mark]
    exact (List.take_left' firstFour).symm
  have twelve : (first ++ (seconds ++ microseconds)).length = 12 := by
    simp [firstFour, secondsFour, microsecondsFour]
  have field := take_drop_append twelve ecuFour rest
  rw [List.append_assoc, List.append_assoc] at field
  rw [field] at padded
  simp only [write, UInt32.toUInt32_toInt32, ofNat_toNat_of_length .little secondsFour,
    ofNat_toNat_of_length .little microsecondsFour, writeId_readId ecuFour padded, isMark,
    List.append_assoc]

/-! ## Extended headers -/

/-- A kind is written by the lowest three bits of the code that it was read from. -/
theorem MessageKind.toNat_code_ofCode (code : UInt8) :
    (ofCode code).code.toNat = code.toNat % 8 := by
  have masked : (ofCode code).code = code &&& 0x07 := by
    rw [ofCode]
    split
    next log => rw [log]; rfl
    split
    next application => rw [application]; rfl
    split
    next network => rw [network]; rfl
    split
    next control => rw [control]; rfl
    next => rfl
  rw [masked, UInt8.toNat_and]
  exact Nat.and_two_pow_sub_one_eq_mod _ 3

namespace ExtendedHeader

/-- Verbosity, kind and subtype are written into the bits that they were read from. -/
theorem messageInfo_eq {header : ExtendedHeader} {info : UInt8}
    (verbose : header.verbose = (info &&& 0x01 != 0))
    (kind : header.kind = .ofCode ((info >>> 1) &&& 0x07))
    (subtype : header.subtype = info >>> 4) : header.messageInfo = info := by
  have small := info.toNat_lt
  have lowest : (if header.verbose then 1 else 0) = info.toNat % 2 := by
    have bit : (info &&& 0x01).toNat = info.toNat % 2 := by
      rw [UInt8.toNat_and, UInt8.toNat_one, Nat.and_one_is_mod]
    rw [verbose]
    split
    next isSet =>
      have notZero : (info &&& 0x01).toNat ≠ 0 :=
        fun zero => bne_iff_ne.mp isSet (UInt8.toNat_inj.mp zero)
      omega
    next isClear =>
      have zero : info &&& 0x01 = 0 := by simpa using isClear
      rw [← bit, zero]
      rfl
  have middle : header.kind.code.toNat = info.toNat / 2 % 8 := by
    have bits : ((info >>> 1) &&& 0x07).toNat = info.toNat / 2 % 8 := by
      rw [UInt8.toNat_and, UInt8.toNat_shiftRight, Nat.shiftRight_eq_div_pow]
      exact Nat.and_two_pow_sub_one_eq_mod _ 3
    rw [kind, MessageKind.toNat_code_ofCode, bits, Nat.mod_mod]
  have highest : header.subtype.toNat % 16 = info.toNat / 16 := by
    rw [subtype, UInt8.toNat_shiftRight, Nat.shiftRight_eq_div_pow]
    simp only [UInt8.reduceToNat, Nat.reduceMod, Nat.reducePow]
    omega
  apply UInt8.toNat_inj.mp
  rw [toNat_messageInfo, lowest, middle, highest]
  omega

/-- An extended header is ten octets, and is written again from what was read. -/
theorem write_of_read? {octets rest : Octets} {header : ExtendedHeader}
    (read : read? octets = some (header, rest)) :
    octets.length = 10 + rest.length ∧
      (IsPadded ((octets.drop 2).take 4) → IsPadded ((octets.drop 6).take 4) →
        header.write ++ rest = octets) := by
  match octets with
  | info :: count :: octets =>
      simp only [read?, Option.bind_eq_bind, Option.bind_eq_some_iff, Prod.exists,
        splitExactly?_eq_some_iff] at read
      rcases read with ⟨apid, _, ⟨rfl, apidFour⟩, ctid, _, ⟨rfl, ctidFour⟩, same⟩
      cases same
      constructor
      · simp only [List.length_cons, List.length_append, apidFour, ctidFour]
        omega
      · intro apidPadded ctidPadded
        have apidField : ((info :: count :: (apid ++ (ctid ++ rest))).drop 2).take 4 = apid :=
          List.take_left' apidFour
        have ctidField : ((info :: count :: (apid ++ (ctid ++ rest))).drop 6).take 4 = ctid :=
          take_drop_append apidFour ctidFour rest
        rw [apidField] at apidPadded
        rw [ctidField] at ctidPadded
        simp only [write, writeId_readId apidFour apidPadded, writeId_readId ctidFour ctidPadded,
          List.cons_append, List.append_assoc]
        exact congrArg (· :: _) (messageInfo_eq rfl rfl rfl)

end ExtendedHeader

/-! ## Messages -/

namespace Frame

/-- The octets of the headers of a frame. -/
def headers (frame : Frame) : Octets :=
  frame.flags.octet :: frame.counter
    :: (Octets.ofNat .big 2 frame.length.toNat
      ++ (frame.headerEcu.elim [] writeId)
      ++ (frame.sessionId.elim [] fun id => Octets.ofNat .big 4 id.toNat)
      ++ (frame.timestamp.elim [] fun ticks => Octets.ofNat .big 4 ticks.toNat)
      ++ (frame.extended.elim [] ExtendedHeader.write))

/-- The octets of a frame, from its storage header to the end of its payload. -/
def wire (frame : Frame) : Octets :=
  frame.storage.elim [] StorageHeader.write ++ frame.headers ++ frame.payload.raw

/-- The octets of an optional field of a standard header. -/
structure Field (present : Bool) where
  octets : Option Octets
  isSome_eq : octets.isSome = present
  length_eq : ∀ field ∈ octets, field.length = 4

namespace Field

variable {present : Bool}

/-- The octets that a field takes up. -/
def written (field : Field present) : Octets :=
  field.octets.getD []

theorem length_written (field : Field present) :
    field.written.length = if present then 4 else 0 := by
  rcases field with ⟨_ | octets, rfl, four⟩
  · rfl
  · exact four octets rfl

/-- What a field is read as is written into its octets again, if that holds of four octets. -/
theorem elim_map {α : Type} {read : Octets → α} {write : α → Octets} (field : Field present)
    (again : ∀ octets ∈ field.octets, octets.length = 4 → write (read octets) = octets) :
    (field.octets.map read).elim [] write = field.written := by
  rcases field with ⟨_ | octets, isSome, four⟩
  · rfl
  · exact again octets rfl (four octets rfl)

end Field

/-- An optional field that is read stands in front. -/
theorem exists_field_of_readField? {present : Bool} {octets rest : Octets}
    {read : Option Octets} (taken : readField? present octets = some (read, rest)) :
    ∃ field : Field present, read = field.octets ∧ octets = field.written ++ rest := by
  cases present with
  | false =>
      cases taken
      exact ⟨⟨none, rfl, by simp⟩, rfl, rfl⟩
  | true =>
      rcases Option.map_eq_some_iff.mp taken with ⟨⟨front, behind⟩, split, same⟩
      cases same
      rcases splitExactly?_eq_some_iff.mp split with ⟨rfl, four⟩
      exact ⟨⟨some front, rfl, by simpa using four⟩, rfl, rfl⟩

/-- Where the parts of a frame stand in its message. -/
structure Layout (frame : Frame) (message : Octets) where
  length : Octets
  ecu : Field frame.flags.hasEcu
  session : Field frame.flags.hasSession
  timestamp : Field frame.flags.hasTimestamp
  /-- The extended header and the payload. -/
  behind : Octets
  message_eq : message = frame.flags.octet :: frame.counter
    :: (length ++ (ecu.written ++ (session.written ++ (timestamp.written ++ behind))))
  length_length : length.length = 2
  length_eq : frame.length = UInt16.ofNat (Octets.toNat .big length)
  ecu_eq : frame.headerEcu = ecu.octets.map readId
  session_eq : frame.sessionId =
    session.octets.map fun field => UInt32.ofNat (Octets.toNat .big field)
  timestamp_eq : frame.timestamp =
    timestamp.octets.map fun field => UInt32.ofNat (Octets.toNat .big field)
  behind_eq : readExtended? frame.flags.hasExtended behind =
    some (frame.extended, frame.payload.raw)

theorem exists_layout_of_read? {storage : Option StorageHeader} {message : Octets}
    {frame : Frame} {stopped : Option ArgumentsStopped}
    (read : read? storage message = some (frame, stopped)) :
    frame.storage = storage ∧ Nonempty (frame.Layout message) := by
  match message with
  | octet :: counter :: high :: low :: rest =>
      simp only [read?, Option.bind_eq_bind, Option.bind_eq_some_iff, Prod.exists] at read
      rcases read with ⟨ecu, _, ecuRead, session, _, sessionRead, timestamp, _, timestampRead,
        extended, raw, extendedRead, same⟩
      cases same
      rcases exists_field_of_readField? ecuRead with ⟨ecu, rfl, rfl⟩
      rcases exists_field_of_readField? sessionRead with ⟨session, rfl, rfl⟩
      rcases exists_field_of_readField? timestampRead with ⟨timestamp, rfl, rfl⟩
      refine ⟨rfl, ⟨[high, low], ecu, session, timestamp, _, rfl, rfl, rfl, rfl, rfl, rfl, ?_⟩⟩
      dsimp only
      rw [readPayload_raw]
      exact extendedRead

namespace Layout

variable {frame : Frame} {message : Octets}

/-- The octets in front of the extended header. -/
def front (layout : frame.Layout message) : Octets :=
  frame.flags.octet :: frame.counter :: (layout.length ++ (layout.ecu.written
    ++ (layout.session.written ++ layout.timestamp.written)))

theorem front_append (layout : frame.Layout message) :
    layout.front ++ layout.behind = message := by
  have parts := layout.message_eq
  simp only [front, List.cons_append, List.append_assoc]
  exact parts.symm

theorem length_front (layout : frame.Layout message) :
    layout.front.length = frame.flags.standardLength := by
  simp only [front, List.length_cons, List.length_append, Field.length_written,
    layout.length_length, HeaderFlags.standardLength]
  omega

/-- An extended header stands where the flags announce it. -/
theorem behind_cases (layout : frame.Layout message) :
    (frame.flags.hasExtended = false ∧ frame.extended = none ∧
        layout.behind = frame.payload.raw) ∨
      ∃ header, frame.flags.hasExtended = true ∧ frame.extended = some header ∧
        ExtendedHeader.read? layout.behind = some (header, frame.payload.raw) := by
  have read := layout.behind_eq
  cases present : frame.flags.hasExtended with
  | false =>
      rw [present] at read
      cases extended : frame.extended with
      | none =>
          left
          refine ⟨rfl, rfl, ?_⟩
          simpa [readExtended?] using congrArg (Option.map Prod.snd) read
      | some header => simp [readExtended?, extended] at read
  | true =>
      rw [present] at read
      rcases Option.map_eq_some_iff.mp read with ⟨⟨header, rest⟩, taken, same⟩
      right
      rw [Prod.mk.injEq] at same
      rcases same with ⟨extended, rfl⟩
      exact ⟨header, rfl, extended.symm, taken⟩

/-- The octets of a message are those of its headers and its payload. -/
theorem length_eq_add (layout : frame.Layout message) :
    message.length = frame.flags.standardLength
      + (if frame.extended.isSome then 10 else 0) + frame.payload.raw.length := by
  rw [← layout.front_append, List.length_append, layout.length_front]
  rcases layout.behind_cases with ⟨-, extended, behind⟩ | ⟨header, -, extended, read⟩
  · rw [extended, behind]
    rfl
  · rw [extended, (ExtendedHeader.write_of_read? read).1]
    exact (Nat.add_assoc ..).symm

/-- The identifiers of a message stand in its fields. -/
theorem messageIds_eq (layout : frame.Layout message) :
    messageIds message = layout.ecu.octets.toList
      ++ (if frame.flags.hasExtended then
          [(layout.behind.drop 2).take 4, (layout.behind.drop 6).take 4]
        else []) := by
  have places : messageIds message =
      (if frame.flags.hasEcu then [(message.drop 4).take 4] else [])
        ++ (if frame.flags.hasExtended then
            [(message.drop (frame.flags.standardLength + 2)).take 4,
             (message.drop (frame.flags.standardLength + 6)).take 4]
          else []) := by
    rw [layout.message_eq]
    rfl
  have behind : message.drop frame.flags.standardLength = layout.behind := by
    have dropped : (layout.front ++ layout.behind).drop _ = layout.behind :=
      List.drop_left' layout.length_front
    rwa [layout.front_append] at dropped
  have ecu : (if frame.flags.hasEcu then [(message.drop 4).take 4] else []) =
      layout.ecu.octets.toList := by
    have present := layout.ecu.isSome_eq
    cases ecu : layout.ecu.octets with
    | none =>
        rw [ecu] at present
        rw [← present]
        rfl
    | some field =>
        rw [ecu] at present
        have field_eq : (message.drop 4).take 4 = field := by
          rw [layout.message_eq, Field.written, ecu]
          exact take_drop_append layout.length_length (layout.ecu.length_eq field ecu) _
        rw [← present, field_eq]
        rfl
  rw [places, ecu, ← List.drop_drop, ← List.drop_drop, behind]

/-- The headers that are written of a frame are those of its message. -/
theorem headers_append (layout : frame.Layout message)
    (padded : ∀ field ∈ messageIds message, IsPadded field) :
    frame.headers ++ frame.payload.raw = message := by
  have lengthField : Octets.ofNat .big 2 frame.length.toNat = layout.length := by
    rw [layout.length_eq, UInt16.toNat_ofNat']
    exact ofNat_toNat_mod .big layout.length_length
  have ecuField : frame.headerEcu.elim [] writeId = layout.ecu.written := by
    rw [layout.ecu_eq]
    apply Field.elim_map
    intro field here four
    apply writeId_readId four
    apply padded
    rw [layout.messageIds_eq]
    exact List.mem_append_left _ (Option.mem_toList.mpr here)
  have sessionField : (frame.sessionId.elim [] fun id => Octets.ofNat .big 4 id.toNat) =
      layout.session.written := by
    rw [layout.session_eq]
    exact Field.elim_map _ fun _ _ four => ofNat_toNat_of_length .big four
  have timestampField : (frame.timestamp.elim [] fun ticks => Octets.ofNat .big 4 ticks.toNat) =
      layout.timestamp.written := by
    rw [layout.timestamp_eq]
    exact Field.elim_map _ fun _ _ four => ofNat_toNat_of_length .big four
  have extendedField : frame.extended.elim [] ExtendedHeader.write ++ frame.payload.raw =
      layout.behind := by
    rcases layout.behind_cases with ⟨-, extended, behind⟩ | ⟨header, present, extended, read⟩
    · rw [extended, behind]
      rfl
    · have ids := layout.messageIds_eq
      simp only [present, if_true] at ids
      rw [extended]
      refine (ExtendedHeader.write_of_read? read).2 (padded _ ?_) (padded _ ?_) <;>
        simp [ids]
  have written := layout.front_append
  rw [front, ← extendedField] at written
  rw [← written, headers, lengthField, ecuField, sessionField, timestampField]
  simp only [List.cons_append, List.append_assoc]

theorem headerEcu_isSome (layout : frame.Layout message) :
    frame.headerEcu.isSome = frame.flags.hasEcu := by
  rw [layout.ecu_eq, Option.isSome_map, layout.ecu.isSome_eq]

end Layout

/-- Frames agree in what was read of their headers and in their raw payloads. -/
structure Agrees (one other : Frame) : Prop where
  storage : one.storage = other.storage
  flags : one.flags = other.flags
  counter : one.counter = other.counter
  length : one.length = other.length
  ecu : one.ecu = other.ecu
  sessionId : one.sessionId = other.sessionId
  timestamp : one.timestamp = other.timestamp
  extended : one.extended = other.extended
  raw : one.payload.raw = other.payload.raw

/-- The control unit that is named in the standard header goes before the one in the storage
header. -/
theorem ecu_of_headerEcu {frame : Frame} {ecu : String} (named : frame.headerEcu = some ecu) :
    frame.ecu = ecu := by
  rw [Frame.ecu, named]

/-- Frames that agree are written alike, if they have the control units that their flags
announce. -/
theorem Agrees.wire_eq {one other : Frame} (agrees : one.Agrees other)
    (oneEcu : one.headerEcu.isSome = one.flags.hasEcu)
    (otherEcu : other.headerEcu.isSome = other.flags.hasEcu) : one.wire = other.wire := by
  have headerEcu : one.headerEcu = other.headerEcu := by
    have ecu := agrees.ecu
    rw [agrees.flags, ← otherEcu] at oneEcu
    match first : one.headerEcu, second : other.headerEcu with
    | none, none => rfl
    | some _, some _ =>
        rw [ecu_of_headerEcu first, ecu_of_headerEcu second] at ecu
        exact congrArg some ecu
    | none, some _ | some _, none =>
        rw [first, second] at oneEcu
        contradiction
  rw [wire, wire, headers, headers, agrees.storage, agrees.flags, agrees.counter, agrees.length,
    headerEcu, agrees.sessionId, agrees.timestamp, agrees.extended, agrees.raw]

end Frame

/-! ## What is decoded -/

namespace Decoder

/-- The octets are one message from its first to its last, which is decoded as the frame. -/
structure Accepts (framing : Framing) (octets : Octets) (frame : Frame) : Prop where
  frame_eq : (decode framing octets).frame = some frame
  rest_eq : (decode framing octets).rest = []
  skipped_eq : (decode framing octets).skipped = 0

/-- A search that drops nothing leaves the buffer as it is. -/
theorem rest_align_of_skipped {framing : Framing} {buffer : Octets}
    (none : (align framing buffer).skipped = 0) : (align framing buffer).rest = buffer := by
  cases framing with
  | bare => rfl
  | stored =>
      have left := (seekMark_passes buffer).1
      rw [show (seekMark buffer).1 = 0 from none] at left
      exact left.symm

/-- A message that is taken off stands behind its storage header, laid out as its frame. -/
theorem exists_layout_of_takeMessage? {framing : Framing} {octets rest : Octets} {frame : Frame}
    {length skipped : Nat} {notices : List Notice}
    (taken : takeMessage? framing length octets = some ⟨some frame, rest, skipped, notices⟩) :
    ∃ message, readStorage? framing octets = some (frame.storage, message ++ rest) ∧
      message.length = length ∧ Nonempty (frame.Layout message) := by
  simp only [takeMessage?, Option.bind_eq_bind, Option.bind_eq_some_iff, Prod.exists] at taken
  rcases taken with ⟨storage, _, stored, message, _, split, found, stopped, read, same⟩
  cases same
  rcases splitExactly?_eq_some_iff.mp split with ⟨rfl, counted⟩
  rcases Frame.exists_layout_of_read? read with ⟨rfl, layout⟩
  exact ⟨message, stored, counted, layout⟩

namespace Accepts

variable {framing : Framing} {octets : Octets} {frame : Frame}

/-- A message that is accepted as a whole is taken off where the buffer begins. -/
theorem exists_taken (accepts : Accepts framing octets frame) :
    (∃ length notices,
      takeMessage? framing length octets = some ⟨some frame, [], 0, notices⟩) ∧
      (framing = .stored → storageMark <+: octets) := by
  rcases accepts with ⟨isFrame, whole, none⟩
  cases turned : turn framing octets with
  | again rest skipped notices =>
      have dropped := (length_turn turned).2
      rw [decode_of_again turned] at none
      simp only [Attempt.after] at none
      omega
  | stop attempt =>
      rw [decode_of_stop turned] at isFrame whole none
      have turns := turns_turn framing octets
      rw [turned] at turns
      cases turns with
      | wait => contradiction
      | @taken flags length attempt found peeked enough taken =>
          have unmoved : (align framing octets).rest = octets :=
            rest_align_of_skipped (Nat.eq_zero_of_add_eq_zero_right none)
          rw [unmoved] at taken
          rcases eq_of_takeMessage? taken with ⟨same, stopped, rfl⟩
          cases isFrame
          refine ⟨⟨length, _, by rw [taken, show octets.drop _ = [] from whole]⟩, ?_⟩
          rintro rfl
          have mark := prefix_seekMark octets found
          rwa [show (seekMark octets).2 = octets from unmoved] at mark

/-- A message whose identifiers are padded is what its frame is written as. -/
theorem wire_eq (accepts : Accepts framing octets frame)
    (padded : ∀ field ∈ wireIds framing octets, IsPadded field) :
    frame.wire = octets ∧ frame.headerEcu.isSome = frame.flags.hasEcu := by
  rcases accepts.exists_taken with ⟨⟨length, notices, taken⟩, mark⟩
  rcases exists_layout_of_takeMessage? taken with ⟨message, stored, -, ⟨layout⟩⟩
  rw [List.append_nil] at stored
  refine ⟨?_, layout.headerEcu_isSome⟩
  rw [Frame.wire, List.append_assoc]
  cases framing with
  | bare =>
      rcases Prod.mk.inj (Option.some.inj stored) with ⟨none, rfl⟩
      rw [← none]
      exact layout.headers_append padded
  | stored =>
      have behind := drop_of_readStorage? stored
      rcases Option.map_eq_some_iff.mp stored with ⟨⟨header, rest⟩, read, same⟩
      rcases Prod.mk.inj same with ⟨storage, rfl⟩
      rw [wireIds, List.forall_mem_cons, ← Framing.leadLength, behind] at padded
      rw [← storage, layout.headers_append padded.2]
      exact StorageHeader.write_of_read? read (mark rfl) padded.1

end Accepts

/-- Of the octets of a frame, those behind the headers are its raw payload. -/
theorem length_raw {framing : Framing} {buffer : Octets} {frame : Frame}
    (isFrame : (decode framing buffer).frame = some frame) :
    frame.flags.standardLength + (if frame.extended.isSome then 10 else 0)
      + frame.payload.raw.length = frame.length.toNat := by
  have entries : (decode framing buffer).entries =
      (decode framing buffer).notices.filterMap Entry.ofNotice? ++ [.message frame] := by
    rw [Attempt.entries, isFrame]
    rfl
  rcases (sound_decode framing buffer).accounts.explains_at entries with ⟨_, _, taken⟩
  rcases exists_layout_of_takeMessage? taken with ⟨message, -, counted, ⟨layout⟩⟩
  rw [← counted, layout.length_eq_add]

/-- Two messages are the same if each is accepted as a whole, the identifiers in both are texts
padded with zeros, and the frames agree in what was read of their headers and in their raw
payloads.  Whatever is decoded, the raw payload of a frame is as long as its length field says,
less the headers. -/
theorem message_determined (framing : Framing) :
    (∀ first second one other,
        Accepts framing first one → Accepts framing second other →
        (∀ field ∈ wireIds framing first, IsPadded field) →
        (∀ field ∈ wireIds framing second, IsPadded field) →
        one.Agrees other → first = second) ∧
      ∀ buffer frame, (decode framing buffer).frame = some frame →
        frame.flags.standardLength + (if frame.extended.isSome then 10 else 0)
          + frame.payload.raw.length = frame.length.toNat := by
  constructor
  · intro first second one other firstAccepts secondAccepts firstPadded secondPadded agrees
    rcases firstAccepts.wire_eq firstPadded with ⟨firstWritten, oneEcu⟩
    rcases secondAccepts.wire_eq secondPadded with ⟨secondWritten, otherEcu⟩
    rw [← firstWritten, ← secondWritten]
    exact agrees.wire_eq oneEcu otherEcu
  · exact fun _ _ => length_raw

/-- A stored message with every optional field is what encoding a draft of its fields gives. -/
theorem message_determined_everyField :
    let draft : Draft :=
      { Draft.log "APP" "CTX" .info with
        storage := some ⟨7, 0, "ECU"⟩
        counter := 9
        sessionId := some 5
        timestamp := some 6
        body := .verbose [{ value := .bool true }] }
    let octets := storageMark ++ [7, 0, 0, 0, 0, 0, 0, 0, 0x45, 0x43, 0x55, 0]
      ++ [0x3D, 9, 0, 31, 0x45, 0x43, 0x55, 0x31, 0, 0, 0, 5, 0, 0, 0, 6]
      ++ [0x41, 1, 0x41, 0x50, 0x50, 0, 0x43, 0x54, 0x58, 0] ++ [0x11, 0, 0, 0, 1]
    ∃ written frame, draft.encode = .ok written ∧ Accepts .stored written frame ∧
      Accepts .stored octets frame ∧ (∀ field ∈ wireIds .stored written, IsPadded field) ∧
      (∀ field ∈ wireIds .stored octets, IsPadded field) ∧ frame.Agrees frame ∧
      written = octets ∧ frame.flags.standardLength + 10 + frame.payload.raw.length = 31 := by
  intro draft octets
  have encoded : ∃ written, draft.encode = .ok written ∧ wireIds .stored written =
      wireIds .stored octets ∧ turn .stored written = turn .stored octets := by
    rw [Draft.encode, if_pos (by decide)]
    exact ⟨_, rfl, by decide, by decide⟩
  have stops : ∃ frame, turn .stored octets = .stop ⟨some frame, [], 0, []⟩ ∧
      frame.extended.isSome ∧ frame.length = 31 :=
    ⟨_, rfl, rfl, rfl⟩
  rcases encoded with ⟨written, encoded, sameIds, sameTurn⟩
  rcases stops with ⟨frame, stops, extended, length⟩
  have first := decode_of_stop (sameTurn.trans stops)
  have second := decode_of_stop stops
  have firstAccepts : Accepts .stored written frame := by constructor <;> rw [first]
  have secondAccepts : Accepts .stored octets frame := by constructor <;> rw [second]
  have padded : ∀ field ∈ wireIds .stored octets, IsPadded field := by
    have ids : wireIds .stored octets = ["ECU", "ECU1", "APP", "CTX"].map writeId := by decide
    rw [ids]
    simp only [List.forall_mem_map, List.forall_mem_cons, List.not_mem_nil, false_imp_iff,
      implies_true, and_true]
    exact ⟨⟨"ECU", 1, by decide, by decide⟩, ⟨"ECU1", 0, by decide, by decide⟩,
      ⟨"APP", 1, by decide, by decide⟩, ⟨"CTX", 1, by decide, by decide⟩⟩
  have writtenPadded : ∀ field ∈ wireIds .stored written, IsPadded field := by
    rw [sameIds]
    exact padded
  have agrees : frame.Agrees frame := by constructor <;> rfl
  rcases message_determined .stored with ⟨determined, lengths⟩
  have counted := lengths octets frame secondAccepts.frame_eq
  rw [if_pos extended, length] at counted
  exact ⟨written, frame, encoded, firstAccepts, secondAccepts, writtenPadded, padded, agrees,
    determined _ _ _ _ firstAccepts secondAccepts writtenPadded padded agrees, counted⟩

end Decoder

end Trace

end Testbed
