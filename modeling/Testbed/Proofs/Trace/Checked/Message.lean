import Testbed.Proofs.Trace.Checked.Argument
import Testbed.Proofs.Trace.Drain

/-!
# Messages read by position

This file supplies the reader of a whole message with every octet taken by its
position.  The position of a field depends on which optional fields stand in front of
it; none passes the end of a message that holds all the headers its flags announce.
-/

namespace Testbed.Trace.Checked

/-! ## Headers -/

/-- The identifier held by a field, cut at the position of its first NUL. -/
def readId? (field : Octets) : Option String :=
  (Octets.slice? field 0 (field.findIdx (· = 0))).map Text.Utf8.decode

/-- Read a storage header, given its octets. -/
def parseStorage? (octets : Octets) : Option StorageHeader := do
  let seconds ← Octets.pick? octets [4, 5, 6, 7]
  let microseconds ← Octets.pick? octets [8, 9, 10, 11]
  let field ← Octets.slice? octets 12 16
  let ecu ← readId? field
  pure
    { seconds := UInt32.ofNat (Octets.toNat .little seconds)
      microseconds := (UInt32.ofNat (Octets.toNat .little microseconds)).toInt32
      ecu }

/-- Read an extended header, given its octets. -/
def parseExtended? (octets : Octets) : Option ExtendedHeader := do
  let info : UInt8 ← octets[0]?
  let argumentCount ← octets[1]?
  let first ← Octets.slice? octets 2 6
  let apid ← readId? first
  let second ← Octets.slice? octets 6 10
  let ctid ← readId? second
  pure
    { verbose := info &&& 0x01 != 0
      kind := .ofCode ((info >>> 1) &&& 0x07)
      subtype := info >>> 4
      argumentCount
      apid
      ctid }

theorem readId?_eq (field : Octets) : readId? field = some (readId field) := by
  rw [readId?, slice?_findIdx]
  rfl

private theorem slice?_take {first count whole : Nat} {octets : Octets}
    (room : whole ≤ octets.length) (within : first + count ≤ whole) :
    Octets.slice? (octets.take whole) first (first + count) =
      some ((octets.drop first).take count) := by
  rw [Octets.slice?_of_le (by rw [List.length_take_of_le room]; exact within), List.drop_take,
    List.take_take, Nat.min_eq_left (by omega)]

private theorem pick?_take {first count whole : Nat} {octets : Octets}
    (room : whole ≤ octets.length) (within : first + count ≤ whole) :
    Octets.pick? (octets.take whole) (List.range' first count) =
      some ((octets.drop first).take count) := by
  rw [Octets.pick?_range' (by rw [List.length_take_of_le room]; exact within), List.drop_take,
    List.take_take, Nat.min_eq_left (by omega)]

/-- A storage header is read by position as it is read piece by piece. -/
theorem parseStorage?_eq {octets : Octets} (room : 16 ≤ octets.length) :
    ∃ header, parseStorage? (octets.take 16) = some header ∧
      StorageHeader.read? octets = some (header, octets.drop 16) := by
  have seconds : Octets.pick? (octets.take 16) [4, 5, 6, 7] = some ((octets.drop 4).take 4) :=
    pick?_take room (by decide : 4 + 4 ≤ 16)
  have microseconds :
      Octets.pick? (octets.take 16) [8, 9, 10, 11] = some ((octets.drop 8).take 4) :=
    pick?_take room (by decide : 8 + 4 ≤ 16)
  have ecu : Octets.slice? (octets.take 16) 12 16 = some ((octets.drop 12).take 4) :=
    slice?_take room (by decide : 12 + 4 ≤ 16)
  simp only [parseStorage?, seconds, microseconds, ecu, readId?_eq, StorageHeader.read?,
    splitExactly?_of_le (by omega : 4 ≤ octets.length),
    splitExactly?_drop (by omega : 4 + 4 ≤ octets.length),
    splitExactly?_drop (by omega : 8 + 4 ≤ octets.length),
    splitExactly?_drop (by omega : 12 + 4 ≤ octets.length),
    Option.bind_eq_bind, Option.bind_some, Nat.reduceAdd]
  exact ⟨_, rfl, rfl⟩

/-- An extended header is read by position as it is read piece by piece. -/
theorem parseExtended?_eq {octets : Octets} (room : 10 ≤ octets.length) :
    ∃ header, parseExtended? (octets.take 10) = some header ∧
      ExtendedHeader.read? octets = some (header, octets.drop 10) := by
  have apid : Octets.slice? (octets.take 10) 2 6 = some ((octets.drop 2).take 4) :=
    slice?_take room (by decide : 2 + 4 ≤ 10)
  have ctid : Octets.slice? (octets.take 10) 6 10 = some ((octets.drop 6).take 4) :=
    slice?_take room (by decide : 6 + 4 ≤ 10)
  match octets with
  | info :: count :: rest =>
      simp only [List.length_cons] at room
      simp only [List.drop_succ_cons, List.drop_zero] at apid ctid
      simp only [parseExtended?, apid, ctid, readId?_eq, ExtendedHeader.read?,
        splitExactly?_of_le (by omega : 4 ≤ rest.length),
        splitExactly?_drop (by omega : 4 + 4 ≤ rest.length),
        Option.bind_eq_bind, Option.bind_some, Nat.reduceAdd]
      exact ⟨_, rfl, rfl⟩
  | [] | [_] => simp at room

/-! ## Payloads -/

/-- Opaque data as text, up to the position behind its last octet that is not NUL. -/
def printable? (data : Octets) : Option (Option String) := do
  let kept ← Octets.slice? data 0 (data.length - data.reverse.findIdx (· ≠ 0))
  if kept.isEmpty || !kept.all Payload.isPrintable then pure none
  else pure (some (Text.Utf8.decode kept))

/-- Decode a payload as its extended header says. -/
def readPayload? (order : ByteOrder) (extended : Option ExtendedHeader) (raw : Octets) :
    Option (Payload × Option ArgumentsStopped) := do
  match extended.filter (·.verbose) with
  | some header =>
      let (arguments, fault) ← decodeMany? order header.argumentCount.toNat raw
      pure
        ({ raw
           messageId := none
           arguments
           text := if arguments.isEmpty then none else some (Argument.renderMany arguments) },
         fault.map fun fault =>
           { apid := header.apid
             ctid := header.ctid
             decoded := arguments.length
             announced := header.argumentCount.toNat
             fault })
  | none =>
      let id ← if 4 ≤ raw.length then some <$> Octets.pick? raw [0, 1, 2, 3] else pure none
      let text ← printable? (raw.drop 4)
      pure
        ({ raw
           messageId := id.map fun id => UInt32.ofNat (Octets.toNat order id)
           arguments := []
           text }, none)

theorem printable?_eq (data : Octets) : printable? data = some (Payload.printable? data) := by
  have kept : Octets.slice? data 0 (data.length - data.reverse.findIdx (· ≠ 0)) =
      some (data.reverse.dropWhile (· = 0)).reverse := by
    rw [Octets.slice?, if_pos ⟨Nat.zero_le _, Nat.sub_le ..⟩, List.dropWhile_eq_drop_findIdx_not,
      List.reverse_drop]
    simp
  rw [printable?, kept, Payload.printable?]
  simp only [Option.bind_eq_bind, Option.bind_some]
  split <;> rfl

private theorem ofNonVerbose_eq (order : ByteOrder) (raw : Octets) :
    Payload.ofNonVerbose order raw =
      { raw
        messageId :=
          if 4 ≤ raw.length then some (UInt32.ofNat (Octets.toNat order (raw.take 4))) else none
        arguments := []
        text := Payload.printable? (raw.drop 4) } := by
  rw [Payload.ofNonVerbose]
  by_cases enough : 4 ≤ raw.length
  · rw [splitExactly?_of_le enough, if_pos enough]
  · rw [splitExactly?_eq_none_iff.mpr (Nat.lt_of_not_le enough), if_neg enough,
      List.drop_eq_nil_of_le (Nat.le_of_not_le enough)]
    rfl

/-- A payload is read by position as it is read piece by piece. -/
theorem readPayload?_eq (order : ByteOrder) (extended : Option ExtendedHeader) (raw : Octets) :
    readPayload? order extended raw = some (Frame.readPayload order extended raw) := by
  have opaqueData (noArguments : extended.filter (·.verbose) = none) :
      readPayload? order extended raw = some (Payload.ofNonVerbose order raw, none) := by
    rw [readPayload?, noArguments, ofNonVerbose_eq]
    simp only [printable?_eq]
    by_cases enough : 4 ≤ raw.length
    · have picked : Octets.pick? raw [0, 1, 2, 3] = some (raw.take 4) :=
        Octets.pick?_range' (by omega : 0 + 4 ≤ raw.length)
      simp only [enough, if_true, picked]
      rfl
    · simp only [enough, if_false]
      rfl
  cases extended with
  | none => exact opaqueData rfl
  | some header =>
      cases verbose : header.verbose with
      | false =>
          rw [opaqueData (by simp [Option.filter, verbose])]
          simp [Frame.readPayload, verbose]
      | true =>
          simp only [readPayload?, Option.filter, verbose, if_true, decodeMany?_eq,
            Frame.readPayload, Payload.ofVerbose]
          rfl

/-! ## Messages -/

/-- An optional field of four octets at a position, and the position behind it. -/
def fieldAt? (present : Bool) (message : Octets) (offset : Nat) :
    Option (Option Octets × Nat) :=
  if present then do
    let slice ← Octets.slice? message offset (offset + 4)
    let field ← Octets.fill? slice 4
    pure (some field, offset + 4)
  else
    pure (none, offset)

/-- The extended header at a position, if it is announced, and the position behind it. -/
def extendedAt? (present : Bool) (message : Octets) (offset : Nat) :
    Option (Option ExtendedHeader × Nat) :=
  if present then do
    let octets ← Octets.slice? message offset (offset + 10)
    let header ← parseExtended? octets
    pure (some header, offset + 10)
  else
    pure (none, offset)

/-- Read one message, from its standard header to its end. -/
def readMessage? (storage : Option StorageHeader) (message : Octets) :
    Option (Frame × Option ArgumentsStopped) := do
  let octet ← message[0]?
  let counter ← message[1]?
  let length ← Octets.pick? message [2, 3]
  let flags : HeaderFlags := ⟨octet⟩
  let (ecu, offset) ← fieldAt? flags.hasEcu message 4
  let headerEcu ← ecu.mapM readId?
  let (session, offset) ← fieldAt? flags.hasSession message offset
  let (timestamp, offset) ← fieldAt? flags.hasTimestamp message offset
  let (extended, offset) ← extendedAt? flags.hasExtended message offset
  let raw ← Octets.slice? message offset message.length
  let (payload, stopped) ← readPayload? flags.payloadOrder extended raw
  pure
    ({ storage
       flags
       counter
       length := UInt16.ofNat (Octets.toNat .big length)
       headerEcu
       sessionId := session.map fun field => UInt32.ofNat (Octets.toNat .big field)
       timestamp := timestamp.map fun field => UInt32.ofNat (Octets.toNat .big field)
       extended
       payload }, stopped)

theorem fieldAt?_eq (present : Bool) (message : Octets) (offset : Nat)
    (room : offset + (if present then 4 else 0) ≤ message.length) :
    ∃ field,
      fieldAt? present message offset = some (field, offset + if present then 4 else 0) ∧
        Frame.readField? present (message.drop offset) =
          some (field, message.drop (offset + if present then 4 else 0)) := by
  cases present with
  | false => exact ⟨none, rfl, rfl⟩
  | true =>
      simp only [if_true] at room
      have slice := Octets.slice?_of_le room
      have filled : Octets.fill? ((message.drop offset).take 4) 4 =
          some ((message.drop offset).take 4) :=
        if_pos (List.length_take_of_le (by rw [List.length_drop]; omega))
      simp only [fieldAt?, Frame.readField?, if_true, splitExactly?_drop room, slice, filled,
        Option.bind_eq_bind, Option.bind_some]
      exact ⟨_, rfl, rfl⟩

theorem extendedAt?_eq (present : Bool) (message : Octets) (offset : Nat)
    (room : offset + (if present then 10 else 0) ≤ message.length) :
    ∃ header,
      extendedAt? present message offset = some (header, offset + if present then 10 else 0) ∧
        Frame.readExtended? present (message.drop offset) =
          some (header, message.drop (offset + if present then 10 else 0)) := by
  cases present with
  | false => exact ⟨none, rfl, rfl⟩
  | true =>
      simp only [if_true] at room
      have slice := Octets.slice?_of_le room
      obtain ⟨header, parsed, read⟩ :=
        parseExtended?_eq (by rw [List.length_drop]; omega : 10 ≤ (message.drop offset).length)
      rw [List.drop_drop] at read
      simp only [extendedAt?, Frame.readExtended?, if_true, slice, read, Option.bind_eq_bind,
        Option.bind_some, parsed]
      exact ⟨_, rfl, rfl⟩

/-- A message that holds the headers its flags announce is read by position as it is
read piece by piece. -/
theorem readMessage?_eq (storage : Option StorageHeader) (flags : HeaderFlags)
    (counter high low : UInt8) (rest : Octets)
    (enough : flags.headerLength ≤ (flags.octet :: counter :: high :: low :: rest).length) :
    ∃ read, readMessage? storage (flags.octet :: counter :: high :: low :: rest) = some read ∧
      Frame.read? storage (flags.octet :: counter :: high :: low :: rest) = some read := by
  generalize whole : flags.octet :: counter :: high :: low :: rest = message at enough
  have behind : message.drop 4 = rest := by rw [← whole]; rfl
  simp only [HeaderFlags.headerLength, HeaderFlags.standardLength] at enough
  -- The length of all headers is the last offset, and bounds those in front of it.
  obtain ⟨ecu, ecuAt, ecuRead⟩ := fieldAt?_eq flags.hasEcu message 4 (by omega)
  obtain ⟨session, sessionAt, sessionRead⟩ := fieldAt?_eq flags.hasSession message _
    (by omega : 4 + (if flags.hasEcu then 4 else 0) + _ ≤ _)
  obtain ⟨timestamp, timestampAt, timestampRead⟩ := fieldAt?_eq flags.hasTimestamp message _
    (by omega : 4 + (if flags.hasEcu then 4 else 0) + (if flags.hasSession then 4 else 0) + _ ≤ _)
  obtain ⟨extended, extendedAt, extendedRead⟩ := extendedAt?_eq flags.hasExtended message _ enough
  have raw := Octets.slice?_length enough
  have headerEcu : ecu.mapM readId? = some (ecu.map readId) := by
    cases ecu with
    | none => rfl
    | some field => simp [readId?_eq]
  have first : message[0]? = some flags.octet := by rw [← whole]; rfl
  have second : message[1]? = some counter := by rw [← whole]; rfl
  have length : Octets.pick? message [2, 3] = some [high, low] := by rw [← whole]; rfl
  rw [behind] at ecuRead
  have complete : ∃ read,
      Frame.read? storage (flags.octet :: counter :: high :: low :: rest) = some read := by
    simp only [Frame.read?, ecuRead, sessionRead, timestampRead, extendedRead,
      Option.bind_eq_bind, Option.bind_some]
    exact ⟨_, rfl⟩
  have same : readMessage? storage message =
      Frame.read? storage (flags.octet :: counter :: high :: low :: rest) := by
    simp only [readMessage?, first, second, length, ecuAt, headerEcu, sessionAt, timestampAt,
      extendedAt, raw, readPayload?_eq, Frame.read?, ecuRead, sessionRead, timestampRead,
      extendedRead, Option.bind_eq_bind, Option.bind_some]
  obtain ⟨read, isRead⟩ := complete
  rw [whole] at same isRead
  exact ⟨read, same.trans isRead, isRead⟩

end Testbed.Trace.Checked
