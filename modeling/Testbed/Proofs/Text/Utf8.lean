import Testbed.Text.Utf8

/-!
# UTF-8 and back

This file supplies the round trip of texts through their octets: the reading
machine gives back every text that was written, and a text cut at its first NUL
is read from octets cut at their first zero.

The octets of a character are described by arithmetic on its number, so each
case of the proof is one range of characters and the octets it takes.
-/

namespace Testbed.Text.Utf8

/-! ## Steps of the machine -/

theorem decodeFrom_ascii {octet : UInt8} (ascii : octet < 0x80) (rest : Octets) :
    decodeFrom none (octet :: rest) = Char.ofNat octet.toNat :: decodeFrom none rest := by
  simp [decodeFrom, step, start, ascii]

/-- The table of leading octets, read by their numbers. -/
theorem lead?_of_toNat {octet : UInt8} {number : Nat}
    (numberEq : octet.toNat = number) :
    lead? octet =
      if 0xC2 ≤ number ∧ number ≤ 0xDF then some ⟨1, 0x80, 0xBF, number - 0xC0⟩
      else if number = 0xE0 then some ⟨2, 0xA0, 0xBF, 0⟩
      else if number = 0xED then some ⟨2, 0x80, 0x9F, 0xD⟩
      else if 0xE1 ≤ number ∧ number ≤ 0xEF then some ⟨2, 0x80, 0xBF, number - 0xE0⟩
      else if number = 0xF0 then some ⟨3, 0x90, 0xBF, 0⟩
      else if 0xF1 ≤ number ∧ number ≤ 0xF3 then some ⟨3, 0x80, 0xBF, number - 0xF0⟩
      else if number = 0xF4 then some ⟨3, 0x80, 0x8F, 4⟩
      else none := by
  subst numberEq
  simp [lead?, UInt8.le_iff_toNat_le, ← UInt8.toNat_inj]

theorem decodeFrom_lead {octet : UInt8} {pending : Pending}
    (leads : lead? octet = some pending) (rest : Octets) :
    decodeFrom none (octet :: rest) = decodeFrom (some pending) rest := by
  have notAscii : ¬ octet < 0x80 := by
    intro ascii
    have small : octet.toNat < 0x80 := by simpa [UInt8.lt_iff_toNat_lt] using ascii
    rw [lead?_of_toNat rfl] at leads
    repeat rw [if_neg (by omega)] at leads
    contradiction
  simp [decodeFrom, step, start, notAscii, leads]

private theorem toNat_tail (value : Nat) :
    (UInt8.ofNat (value % 0x40 + 0x80)).toNat = value % 64 + 0x80 := by
  simp only [UInt8.toNat_ofNat']
  omega

/-- An admitted octet that does not complete its character. -/
private theorem decodeFrom_more {owed bits value : Nat} {low high : UInt8}
    (least : low.toNat ≤ value % 64 + 0x80) (most : value % 64 + 0x80 ≤ high.toNat)
    (rest : Octets) :
    decodeFrom (some ⟨owed + 2, low, high, bits⟩)
        (UInt8.ofNat (value % 0x40 + 0x80) :: rest) =
      decodeFrom (some ⟨owed + 1, 0x80, 0xBF, bits * 64 + value % 64⟩) rest := by
  have numberEq := toNat_tail value
  generalize UInt8.ofNat (value % 0x40 + 0x80) = octet at numberEq
  simp [decodeFrom, step, UInt8.le_iff_toNat_le, numberEq, least, most]

/-- The octet that completes a character. -/
private theorem decodeFrom_last (bits value : Nat) (rest : Octets) :
    decodeFrom (some ⟨1, 0x80, 0xBF, bits⟩) (UInt8.ofNat (value % 0x40 + 0x80) :: rest) =
      Char.ofNat (bits * 64 + value % 64) :: decodeFrom none rest := by
  have numberEq := toNat_tail value
  have most : value % 64 + 0x80 ≤ 0xBF := by omega
  generalize UInt8.ofNat (value % 0x40 + 0x80) = octet at numberEq
  simp [decodeFrom, step, UInt8.le_iff_toNat_le, numberEq, most]

/-! ## Leading octets -/

private theorem lead?_two {value : Nat} (least : 0x80 ≤ value) (most : value < 0x800) :
    lead? (UInt8.ofNat (value / 64 % 0x20 + 0xC0)) = some ⟨1, 0x80, 0xBF, value / 64⟩ := by
  have numberEq : (UInt8.ofNat (value / 64 % 0x20 + 0xC0)).toNat = value / 64 + 0xC0 := by
    simp only [UInt8.toNat_ofNat']
    omega
  rw [lead?_of_toNat numberEq, if_pos (by omega), Nat.add_sub_cancel]

/-- The bounds on the second octet exclude what is too small for three octets,
and the surrogates. -/
private theorem lead?_three (value : Nat) (least : 0x800 ≤ value) (most : value < 0x10000)
    (scalar : value < 0xD800 ∨ 0xDFFF < value) :
    ∃ low high, lead? (UInt8.ofNat (value / 4096 % 0x10 + 0xE0)) =
        some ⟨2, low, high, value / 4096⟩ ∧
      low.toNat ≤ value / 64 % 64 + 0x80 ∧ value / 64 % 64 + 0x80 ≤ high.toNat := by
  have numberEq : (UInt8.ofNat (value / 4096 % 0x10 + 0xE0)).toNat =
      value / 4096 + 0xE0 := by
    simp only [UInt8.toNat_ofNat']
    omega
  rw [lead?_of_toNat numberEq, if_neg (by omega)]
  by_cases first : value / 4096 = 0
  · rw [if_pos (by omega), first]
    exact ⟨_, _, rfl, by simp; omega, by simp; omega⟩
  · rw [if_neg (by omega)]
    by_cases surrogates : value / 4096 = 0xD
    · rw [if_pos (by omega), surrogates]
      exact ⟨_, _, rfl, by simp, by simp; omega⟩
    · rw [if_neg (by omega), if_pos (by omega), Nat.add_sub_cancel]
      exact ⟨_, _, rfl, by simp, by simp; omega⟩

/-- The bounds on the second octet exclude what is too small for four octets, and
what lies beyond the last character. -/
private theorem lead?_four (value : Nat) (least : 0x10000 ≤ value)
    (most : value < 0x110000) :
    ∃ low high, lead? (UInt8.ofNat (value / 262144 % 0x08 + 0xF0)) =
        some ⟨3, low, high, value / 262144⟩ ∧
      low.toNat ≤ value / 4096 % 64 + 0x80 ∧ value / 4096 % 64 + 0x80 ≤ high.toNat := by
  have numberEq : (UInt8.ofNat (value / 262144 % 0x08 + 0xF0)).toNat =
      value / 262144 + 0xF0 := by
    simp only [UInt8.toNat_ofNat']
    omega
  rw [lead?_of_toNat numberEq, if_neg (by omega), if_neg (by omega), if_neg (by omega),
    if_neg (by omega)]
  by_cases first : value / 262144 = 0
  · rw [if_pos (by omega), first]
    exact ⟨_, _, rfl, by simp; omega, by simp; omega⟩
  · rw [if_neg (by omega)]
    by_cases last : value / 262144 = 4
    · rw [if_neg (by omega), if_pos (by omega), last]
      exact ⟨_, _, rfl, by simp, by simp; omega⟩
    · rw [if_pos (by omega), Nat.add_sub_cancel]
      exact ⟨_, _, rfl, by simp, by simp; omega⟩

/-! ## Round trip -/

/-- The machine gives back the character whose octets are in front of it. -/
theorem decodeFrom_encodeChar (character : Char) (rest : Octets) :
    decodeFrom none (String.utf8EncodeChar character ++ rest) =
      character :: decodeFrom none rest := by
  have valid : character.val.toNat < 0xD800 ∨
      0xDFFF < character.val.toNat ∧ character.val.toNat < 0x110000 := character.valid
  have restored : Char.ofNat character.val.toNat = character := Char.ofNat_toNat character
  unfold String.utf8EncodeChar
  generalize character.val.toNat = value at valid restored
  subst restored
  dsimp only
  split
  case isTrue ascii =>
    have numberEq : (UInt8.ofNat value).toNat = value := by
      simp only [UInt8.toNat_ofNat']
      omega
    have small : UInt8.ofNat value < 0x80 := by
      rw [UInt8.lt_iff_toNat_lt, numberEq]
      exact Nat.lt_succ_of_le ascii
    rw [List.singleton_append, decodeFrom_ascii small, numberEq]
  case isFalse beyondOne =>
    split
    case isTrue withinTwo =>
      have joined : value / 64 * 64 + value % 64 = value := by omega
      simp only [List.cons_append, List.nil_append]
      rw [decodeFrom_lead (lead?_two (by omega) (by omega)), decodeFrom_last, joined]
    case isFalse beyondTwo =>
      split
      case isTrue withinThree =>
        obtain ⟨low, high, leads, least, most⟩ :=
          lead?_three value (by omega) (by omega) (by omega)
        have joined : (value / 4096 * 64 + value / 64 % 64) * 64 + value % 64 = value := by
          omega
        simp only [List.cons_append, List.nil_append]
        rw [decodeFrom_lead leads, decodeFrom_more least most, decodeFrom_last, joined]
      case isFalse beyondThree =>
        obtain ⟨low, high, leads, least, most⟩ :=
          lead?_four value (by omega) (by omega)
        have joined : ((value / 262144 * 64 + value / 4096 % 64) * 64 + value / 64 % 64) * 64
            + value % 64 = value := by
          omega
        simp only [List.cons_append, List.nil_append]
        rw [decodeFrom_lead leads, decodeFrom_more least most,
          decodeFrom_more (by simp) (by simp; omega), decodeFrom_last, joined]

/-- The machine gives back the text whose octets are in front of it. -/
theorem decodeFrom_encode_append (text : String) (rest : Octets) :
    decodeFrom none (encode text ++ rest) = text.toList ++ decodeFrom none rest := by
  rw [encode]
  induction text.toList with
  | nil => rfl
  | cons character characters ih =>
      rw [List.flatMap_cons, List.append_assoc, decodeFrom_encodeChar, ih, List.cons_append]

theorem decodeFrom_encode (text : String) : decodeFrom none (encode text) = text.toList := by
  have whole := decodeFrom_encode_append text []
  rw [List.append_nil, decodeFrom, List.append_nil] at whole
  exact whole

/-- Every text is read back from its octets. -/
@[simp]
theorem decode_encode (text : String) : decode (encode text) = text := by
  rw [decode, decodeFrom_encode, String.ofList_toList]

/-- A text takes as many octets as it counts. -/
theorem length_encode (text : String) : (encode text).length = text.utf8ByteSize := by
  rw [encode, String.utf8ByteSize, ← String.utf8Encode_toList, List.utf8Encode]
  exact (List.size_toByteArray ..).symm

/-! ## Texts up to a NUL -/

/-- A text up to its first NUL. -/
def cutAtNul (text : String) : String :=
  String.ofList (text.toList.takeWhile (· ≠ '\x00'))

/-- A text without NULs is not cut. -/
theorem cutAtNul_of_not_mem {text : String} (noNul : '\x00' ∉ text.toList) :
    cutAtNul text = text := by
  have kept : ∀ character ∈ text.toList, decide (character ≠ '\x00') = true :=
    fun _ here => decide_eq_true fun nul => noNul (nul ▸ here)
  have whole : (text.toList ++ []).takeWhile (· ≠ '\x00') = text.toList ++ [] :=
    List.takeWhile_append_of_pos kept
  rw [List.append_nil] at whole
  rw [cutAtNul, whole, String.ofList_toList]

/-- The octets of a character other than NUL are no zeros. -/
theorem ne_zero_of_mem_encodeChar {character : Char} (notNul : character ≠ '\x00')
    {octet : UInt8} (octetMem : octet ∈ String.utf8EncodeChar character) : octet ≠ 0 := by
  have positive : character.val.toNat ≠ 0 := by
    intro zero
    exact notNul (Char.toNat_inj.mp zero)
  unfold String.utf8EncodeChar at octetMem
  generalize character.val.toNat = value at octetMem positive
  dsimp only at octetMem
  intro zero
  subst zero
  split at octetMem
  · simp [← UInt8.toNat_inj] at octetMem
    omega
  · split at octetMem
    · simp [← UInt8.toNat_inj] at octetMem
      omega
    · split at octetMem
      · simp [← UInt8.toNat_inj] at octetMem
        omega
      · simp [← UInt8.toNat_inj] at octetMem
        omega

private theorem takeWhile_flatMap_encodeChar (characters : List Char) (rest : Octets) :
    (characters.flatMap String.utf8EncodeChar ++ 0 :: rest).takeWhile (· ≠ 0) =
      (characters.takeWhile (· ≠ '\x00')).flatMap String.utf8EncodeChar := by
  induction characters with
  | nil => simp
  | cons character characters ih =>
      by_cases nul : character = '\x00'
      · subst nul
        simp [String.utf8EncodeChar]
      · have noZero : ∀ octet ∈ String.utf8EncodeChar character, decide (octet ≠ 0) = true := by
          intro octet octetMem
          exact decide_eq_true (ne_zero_of_mem_encodeChar nul octetMem)
        rw [List.flatMap_cons, List.append_assoc, List.takeWhile_append_of_pos noZero, ih,
          List.takeWhile_cons_of_pos (by simpa using nul), List.flatMap_cons]

/-- The octets of a text up to the first zero, which is its first NUL or else the
octet behind it. -/
theorem takeWhile_encode_append (text : String) (rest : Octets) :
    (encode text ++ 0 :: rest).takeWhile (· ≠ 0) = encode (cutAtNul text) := by
  rw [encode, takeWhile_flatMap_encodeChar, encode, cutAtNul, String.toList_ofList]

/-- A terminated text is read up to its first NUL. -/
theorem decode_takeWhile_encode_append (text : String) (rest : Octets) :
    decode ((encode text ++ 0 :: rest).takeWhile (· ≠ 0)) = cutAtNul text := by
  rw [takeWhile_encode_append, decode_encode]

end Testbed.Text.Utf8
