import Testbed.Proofs.Trace.Argument
import Testbed.Proofs.Trace.Header
import Testbed.Trace.Draft

/-!
# Messages and back

This file supplies the round trip of a whole message.  Each header flag shifts
everything behind its field; reading the optional fields one after the other, from
what the field before it left, keeps the offsets out of the argument.
-/

namespace Testbed.Trace

/-- However a payload is decoded, its octets are kept. -/
theorem Frame.readPayload_raw (order : ByteOrder) (extended : Option ExtendedHeader)
    (raw : Octets) : (Frame.readPayload order extended raw).1.raw = raw := by
  have untyped : (Payload.ofNonVerbose order raw).raw = raw := by
    rw [Payload.ofNonVerbose]
    split <;> rfl
  cases extended with
  | none => exact untyped
  | some header =>
      cases verbose : header.verbose with
      | false => simp [Frame.readPayload, verbose, untyped]
      | true => simp [Frame.readPayload, verbose, Payload.ofVerbose]

namespace Draft

/-- The framing in which a draft is sent. -/
def framing (draft : Draft) : Framing :=
  if draft.storage.isSome then .stored else .bare

/-- The message of a draft as it arrives behind a storage header or without one. -/
def arrivingWith (draft : Draft) (storage : Option StorageHeader) :
    Frame × Option ArgumentsStopped :=
  let extended := draft.extended?.map ExtendedHeader.arriving
  let (payload, stopped) := Frame.readPayload draft.order extended draft.payload
  ({ storage
     flags := draft.flags
     counter := draft.counter
     length := UInt16.ofNat draft.length
     headerEcu := draft.ecu.map arrivingId
     sessionId := draft.sessionId
     timestamp := draft.timestamp
     extended
     payload }, stopped)

private theorem readField?_elim {α : Type} {write : α → Octets}
    (width : ∀ value, (write value).length = 4) (value : Option α) (rest : Octets) :
    Frame.readField? value.isSome (value.elim [] write ++ rest) = some (value.map write, rest) := by
  cases value with
  | none => rfl
  | some value =>
      simp [Frame.readField?, splitExactly?_append (width value)]

private theorem readExtended?_elim (value : Option ExtendedHeader) (rest : Octets) :
    Frame.readExtended? value.isSome (value.elim [] ExtendedHeader.write ++ rest) =
      some (value.map ExtendedHeader.arriving, rest) := by
  cases value with
  | none => rfl
  | some value =>
      simp [Frame.readExtended?, ExtendedHeader.read?_write]

theorem flags_eq (draft : Draft) :
    draft.flags.hasExtended = draft.origin.isSome ∧ draft.flags.isBigEndian = draft.bigEndian ∧
      draft.flags.hasEcu = draft.ecu.isSome ∧ draft.flags.hasSession = draft.sessionId.isSome ∧
      draft.flags.hasTimestamp = draft.timestamp.isSome ∧ draft.flags.version = 1 :=
  HeaderFlags.ofPresence_eq ..

theorem big_octets (draft : Draft) :
    Octets.ofNat .big 2 draft.length =
      [UInt8.ofNat (draft.length / 256), UInt8.ofNat draft.length] :=
  rfl

theorem toNat_length (draft : Draft) (fits : draft.length < 0x10000) :
    Octets.toNat .big [UInt8.ofNat (draft.length / 256), UInt8.ofNat draft.length] =
      draft.length := by
  rw [← big_octets, Octets.toNat_ofNat]
  exact Nat.mod_eq_of_lt fits

/-- A message that fits its length field is read back. -/
theorem read?_message (draft : Draft) (fits : draft.length < 0x10000)
    (storage : Option StorageHeader) :
    Frame.read? storage draft.message = some (draft.arrivingWith storage) := by
  obtain ⟨extended, bigEndian, ecu, session, timestamp, -⟩ := draft.flags_eq
  have order : draft.flags.payloadOrder = draft.order := by
    rw [HeaderFlags.payloadOrder, bigEndian, Draft.order]
  have announced : draft.flags.hasExtended = draft.extended?.isSome := by
    rw [extended, extended?, Option.isSome_map]
  simp only [message, big_octets, List.cons_append, List.append_assoc, List.nil_append,
    Frame.read?, toNat_length draft fits, ecu, session, timestamp, announced, order,
    readField?_elim length_writeId, readField?_elim fun _ => Octets.length_ofNat ..,
    readExtended?_elim, Option.bind_eq_bind, Option.bind_some, Option.map_map, Function.comp_def,
    readId_writeId, ofNat_toNat_uint32, Option.map_id']
  rfl

end Draft

end Testbed.Trace
