import Testbed.Proofs.Text.Utf8
import Testbed.Trace.Header

/-!
# Headers and back

This file supplies the round trips of the headers of a trace message.  Numbers and
flags are read back as they were written; an identifier is cut to what four octets
hold, and a kind and a subtype to their bits.
-/

namespace Testbed

theorem splitExactly?_append {α : Type} {count : Nat} {taken : List α}
    (counted : taken.length = count) (rest : List α) :
    splitExactly? count (taken ++ rest) = some (taken, rest) :=
  splitExactly?_eq_some_iff.mpr ⟨rfl, counted⟩

theorem ofNat_toNat_uint32 (order : ByteOrder) (value : UInt32) :
    UInt32.ofNat (Octets.toNat order (Octets.ofNat order 4 value.toNat)) = value := by
  have bound : value.toNat < Octets.valueCount 4 := value.toNat_lt
  rw [Octets.toNat_ofNat, Nat.mod_eq_of_lt bound, UInt32.ofNat_toNat]

namespace Trace

/-! ## Identifiers -/

/-- An identifier as it arrives: its first four octets up to a zero, read as text. -/
def arrivingId (id : String) : String :=
  Text.Utf8.decode (((Text.Utf8.encode id).take 4).takeWhile (· ≠ 0))

theorem takeWhile_append_zeros (octets : Octets) (count : Nat) :
    (octets ++ List.replicate count 0).takeWhile (· ≠ 0) = octets.takeWhile (· ≠ 0) := by
  induction octets with
  | nil => cases count <;> simp [List.replicate_succ]
  | cons octet octets ih =>
      rw [List.cons_append, List.takeWhile_cons, List.takeWhile_cons, ih]

theorem readId_writeId (id : String) : readId (writeId id) = arrivingId id := by
  rw [readId, writeId, takeWhile_append_zeros, arrivingId]

/-! ## Storage header -/

namespace StorageHeader

/-- A storage header as it arrives. -/
def arriving (header : StorageHeader) : StorageHeader :=
  { header with ecu := arrivingId header.ecu }

theorem read?_write (header : StorageHeader) (rest : Octets) :
    read? (header.write ++ rest) = some (header.arriving, rest) := by
  have mark : storageMark.length = 4 := rfl
  simp only [read?, write, List.append_assoc, splitExactly?_append mark,
    splitExactly?_append (Octets.length_ofNat ..), splitExactly?_append (length_writeId _),
    Option.bind_eq_bind, Option.bind_some, ofNat_toNat_uint32, readId_writeId]
  rw [Int32.toInt32_toUInt32]
  rfl

@[simp]
theorem length_write (header : StorageHeader) : header.write.length = storageLength := by
  simp [write, storageMark, storageLength]

end StorageHeader

/-! ## Flags -/

namespace HeaderFlags

variable (extended bigEndian ecu session timestamp : Bool)

/-- Flags announce what they were made for. -/
theorem ofPresence_eq :
    let flags := ofPresence extended bigEndian ecu session timestamp
    flags.hasExtended = extended ∧ flags.isBigEndian = bigEndian ∧ flags.hasEcu = ecu ∧
      flags.hasSession = session ∧ flags.hasTimestamp = timestamp ∧ flags.version = 1 := by
  revert extended bigEndian ecu session timestamp
  decide

end HeaderFlags

/-! ## Extended header -/

theorem MessageKind.code_lt (kind : MessageKind) : kind.code.toNat < 8 := by
  cases kind with
  | unknown code =>
      rw [MessageKind.code, UInt8.toNat_and]
      exact Nat.lt_succ_of_le Nat.and_le_right
  | _ => decide

namespace ExtendedHeader

/-- An extended header as it arrives. -/
def arriving (header : ExtendedHeader) : ExtendedHeader :=
  { header with
    kind := .ofCode header.kind.code
    subtype := header.subtype % 16
    apid := arrivingId header.apid
    ctid := arrivingId header.ctid }

/-- The three parts of the message octet lie in disjoint bits. -/
theorem toNat_messageInfo (header : ExtendedHeader) :
    header.messageInfo.toNat =
      (if header.verbose then 1 else 0) + 2 * header.kind.code.toNat
        + 16 * (header.subtype.toNat % 16) := by
  have small := header.kind.code_lt
  have low : (if header.verbose then 1 else 0) < 2 := by
    split <;> decide
  have verbose : (if header.verbose then (1 : UInt8) else 0).toNat =
      if header.verbose then 1 else 0 := by
    split <;> rfl
  have kind : (header.kind.code <<< 1).toNat = 2 * header.kind.code.toNat := by
    rw [UInt8.toNat_shiftLeft, Nat.shiftLeft_eq]
    simp
    omega
  have subtype : (header.subtype <<< 4).toNat = 16 * (header.subtype.toNat % 16) := by
    rw [UInt8.toNat_shiftLeft, Nat.shiftLeft_eq]
    simp
    omega
  rw [messageInfo, UInt8.toNat_or, UInt8.toNat_or, verbose, kind, subtype]
  rw [Nat.or_comm _ (2 * _), ← Nat.two_pow_add_eq_or_of_lt (i := 1) low]
  rw [Nat.or_comm _ (16 * _), ← Nat.two_pow_add_eq_or_of_lt (i := 4) (by omega)]
  omega

theorem messageInfo_verbose (header : ExtendedHeader) :
    (header.messageInfo &&& 0x01 != 0) = header.verbose := by
  have bit : (header.messageInfo &&& 0x01).toNat = if header.verbose then 1 else 0 := by
    rw [UInt8.toNat_and, UInt8.toNat_one, Nat.and_one_is_mod, toNat_messageInfo]
    split <;> omega
  cases verbose : header.verbose with
  | false =>
      rw [verbose] at bit
      have zero : header.messageInfo &&& 0x01 = 0 := UInt8.toNat_inj.mp bit
      rw [zero]
      rfl
  | true =>
      rw [verbose] at bit
      have one : header.messageInfo &&& 0x01 = 1 := UInt8.toNat_inj.mp bit
      rw [one]
      rfl

theorem messageInfo_kind (header : ExtendedHeader) :
    (header.messageInfo >>> 1) &&& 0x07 = header.kind.code := by
  have small := header.kind.code_lt
  apply UInt8.toNat_inj.mp
  rw [UInt8.toNat_and, UInt8.toNat_shiftRight, toNat_messageInfo]
  change _ &&& (2 ^ 3 - 1) = _
  rw [Nat.and_two_pow_sub_one_eq_mod, Nat.shiftRight_eq_div_pow]
  simp only [UInt8.reduceToNat, Nat.reduceMod, Nat.reducePow]
  split <;> omega

theorem messageInfo_subtype (header : ExtendedHeader) :
    header.messageInfo >>> 4 = header.subtype % 16 := by
  have small := header.kind.code_lt
  apply UInt8.toNat_inj.mp
  rw [UInt8.toNat_shiftRight, toNat_messageInfo, UInt8.toNat_mod, Nat.shiftRight_eq_div_pow]
  simp only [UInt8.reduceToNat, Nat.reduceMod, Nat.reducePow]
  split <;> omega

theorem read?_write (header : ExtendedHeader) (rest : Octets) :
    read? (header.write ++ rest) = some (header.arriving, rest) := by
  simp only [read?, write, List.cons_append, List.append_assoc,
    splitExactly?_append (length_writeId _), Option.bind_eq_bind, Option.bind_some,
    messageInfo_verbose, messageInfo_kind, messageInfo_subtype, readId_writeId]
  rfl

end ExtendedHeader

end Trace

end Testbed
