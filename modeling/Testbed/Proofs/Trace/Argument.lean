import Testbed.Proofs.Text.Utf8
import Testbed.Trace.Argument

/-!
# Arguments and back

This file supplies the round trip of verbose arguments.  What is read back is the
argument up to what the wire cannot carry: texts end at their first NUL, and only a
named number has a unit, which then is not empty.

A decoding step is described by the octets it takes off the front and the value
that it gives, whatever follows.  Such descriptions are put together along the
steps, so that the wire format of an argument is followed field by field.
-/

namespace Testbed.Trace

/-- Whether a value is a number, which alone can have a unit on the wire. -/
def Value.isNumber : Value → Bool
  | .signed _ | .unsigned _ | .float _ => true
  | .bool _ | .text _ | .raw _ => false

namespace Argument

open Text.Utf8 (cutAtNul)

/-! ## Steps that take known octets -/

/-- A decoding step takes exactly `octets` off the front and gives `value`, whatever
follows them. -/
def Reads {α : Type} (step : Read α) (octets : Octets) (value : α) : Prop :=
  ∀ rest, step (octets ++ rest) = .ok (value, rest)

namespace Reads

variable {α β : Type} {step : Read α} {octets : Octets} {value : α}

theorem pure (value : α) : Reads (Pure.pure value) [] value :=
  fun _ => rfl

theorem bind {next : α → Read β} {others : Octets} {result : β}
    (first : Reads step octets value) (second : Reads (next value) others result) :
    Reads (step >>= next) (octets ++ others) result := by
  intro rest
  rw [List.append_assoc]
  change (step (octets ++ (others ++ rest)) >>= fun read => next read.1 read.2) = _
  rw [first]
  exact second rest

theorem map (transform : α → β) (read : Reads step octets value) :
    Reads (transform <$> step) octets (transform value) := by
  intro rest
  change (step (octets ++ rest) >>= fun read => Except.ok (transform read.1, read.2)) = _
  rw [read]
  rfl

/-- A last step that only puts values together. -/
theorem andThen (next : α → β) (read : Reads step octets value) :
    Reads (step >>= fun read => Pure.pure (next read)) octets (next value) := by
  rw [← List.append_nil octets]
  exact read.bind (pure (next value))

end Reads

theorem reads_take (octets : Octets) : Reads (take octets.length) octets octets := by
  intro rest
  have split : splitExactly? octets.length (octets ++ rest) = some (octets, rest) :=
    splitExactly?_eq_some_iff.mpr ⟨rfl, rfl⟩
  rw [take, split]

theorem reads_word (order : ByteOrder) {width number : Nat}
    (fits : number < Octets.valueCount width) :
    Reads (word order width) (Octets.ofNat order width number) number := by
  have taken := reads_take (Octets.ofNat order width number)
  have read := taken.map (Octets.toNat order)
  rw [Octets.length_ofNat, Octets.toNat_ofNat, Nat.mod_eq_of_lt fits] at read
  exact read

theorem reads_terminated (text : String) :
    Reads (terminated (terminate text).length) (terminate text) (cutAtNul text) := by
  have read := (reads_take (terminate text)).andThen
    fun octets => Text.Utf8.decode (octets.takeWhile (· ≠ 0))
  rw [terminate, Text.Utf8.decode_takeWhile_encode_append] at read
  exact read

/-! ## Names and units -/

/-- A text that ends with its terminator has a length of two octets. -/
def IsShort (text : String) : Prop :=
  (terminate text).length < 0x10000

instance (text : String) : Decidable (IsShort text) :=
  inferInstanceAs (Decidable ((terminate text).length < 0x10000))

/-- The octets of a name, if there is one. -/
def nameOctets (order : ByteOrder) : Option String → Octets
  | some name => encodeName order name
  | none => []

theorem reads_nameIf (order : ByteOrder) {name : Option String}
    (short : ∀ text ∈ name, IsShort text) :
    Reads (nameIf order name.isSome) (nameOctets order name) (name.map cutAtNul) := by
  cases name with
  | none => exact Reads.pure none
  | some name =>
      exact (reads_word order (short name rfl)).bind ((reads_terminated name).map some)

theorem reads_decodeNames (order : ByteOrder) {info : TypeInfo} (name unit : String)
    (named : info.has TypeInfo.named = true) (shortName : IsShort name)
    (shortUnit : IsShort unit) :
    Reads (decodeNames order info) (encodeNames order name unit)
      (some (cutAtNul name),
        if (cutAtNul unit).isEmpty then none else some (cutAtNul unit)) := by
  simp only [decodeNames, named, if_true, encodeNames, List.append_assoc]
  refine (reads_word order shortName).bind ?_
  refine (reads_word order shortUnit).bind ?_
  refine (reads_terminated name).bind ?_
  exact (reads_terminated unit).andThen _

/-! ## Integers -/

/-- Spread the sign bit of a word of `width` octets. -/
def signExtend (width : Nat) (value : UInt64) : Int64 :=
  (value <<< UInt64.ofNat (64 - 8 * width)).toInt64 >>> Int64.ofNat (64 - 8 * width)

private theorem shiftAmounts : ∀ places : Fin 64,
    ((UInt64.ofNat places).toBitVec % 64).toNat = places ∧
      ((Int64.ofNat places).toBitVec.smod 64).toNat = places := by
  decide

/-- A word that is shifted up and back is shifted down with the sign it has at the
top. -/
private theorem toInt_shift (value : UInt64) {places : Nat} (small : places < 64) :
    ((value <<< UInt64.ofNat places).toInt64 >>> Int64.ofNat places).toInt =
      (↑(value.toNat <<< places) : Int).bmod 0x10000000000000000 >>> places := by
  obtain ⟨left, right⟩ := shiftAmounts ⟨places, small⟩
  dsimp only at left right
  rw [← Int64.toInt_toBitVec, Int64.toBitVec_shiftRight, UInt64.toBitVec_toInt64,
    UInt64.toBitVec_shiftLeft, BitVec.sshiftRight', BitVec.toInt_sshiftRight, right,
    BitVec.shiftLeft_eq', left, BitVec.toInt_eq_toNat_bmod, BitVec.toNat_shiftLeft,
    Int.natCast_emod, Int.emod_bmod]
  simp only [Nat.reducePow]
  rfl

/-- Spreading the sign bit gives the number of least magnitude that the word stands
for. -/
theorem toInt_signExtend {width number : Nat}
    (admitted : width = 1 ∨ width = 2 ∨ width = 4 ∨ width = 8)
    (bound : number < Octets.valueCount width) :
    (signExtend width (UInt64.ofNat number)).toInt =
      (number : Int).bmod (Octets.valueCount width) := by
  rcases admitted with rfl | rfl | rfl | rfl
  all_goals
    simp only [Octets.valueCount, Nat.reduceMul] at bound ⊢
    rw [signExtend, toInt_shift _ (by decide), UInt64.toNat_ofNat',
      Nat.mod_eq_of_lt (by omega), Nat.shiftLeft_eq, Int.shiftRight_eq_div_pow]
    simp only [Int.bmod, Nat.reduceMul, Nat.reduceSub, Nat.reducePow]
    split <;> split <;> omega

theorem reads_unsignedWord (order : ByteOrder) {width number : Nat}
    (admitted : width = 1 ∨ width = 2 ∨ width = 4 ∨ width = 8)
    (fits : number < Octets.valueCount width) :
    Reads (unsignedWord order width) (Octets.ofNat order width number)
      (UInt64.ofNat number) := by
  rw [unsignedWord, if_pos admitted]
  exact (reads_word order fits).map UInt64.ofNat

/-- A word is written with the octets of the number modulo the count of its values. -/
theorem ofNat_mod (order : ByteOrder) (width number : Nat) :
    Octets.ofNat order width (number % Octets.valueCount width) =
      Octets.ofNat order width number := by
  have back := Octets.ofNat_toNat order (Octets.ofNat order width number)
  rwa [Octets.toNat_ofNat, Octets.length_ofNat] at back

/-- A number without a sign is read back from the 4 octets that hold it, or else
from 8. -/
theorem reads_uint64 (order : ByteOrder) {width : Nat} {value : UInt64}
    (written : width = 4 ∨ width = 8) (fits : width = 4 → value.toNat < 0x100000000) :
    Reads (unsignedWord order width) (Octets.ofNat order width value.toNat) value := by
  have bound : value.toNat < Octets.valueCount width := by
    rcases written with rfl | rfl
    · exact fits rfl
    · exact value.toNat_lt
  have read := reads_unsignedWord order (by omega) bound
  rwa [UInt64.ofNat_toNat] at read

/-- A number that fits 32 bits is determined by the lower half of its 64 bits. -/
private theorem bmod_narrow {number : Nat} {signed : Int}
    (atTop : signed = (number : Int).bmod 0x10000000000000000)
    (range : -0x80000000 ≤ signed ∧ signed < 0x80000000) :
    (number : Int).bmod 0x100000000 = signed := by
  rw [Int.bmod] at atTop ⊢
  split at atTop <;> split <;> omega

/-- A number with a sign is read back from the 4 octets that hold it, or else
from 8. -/
theorem reads_int64 (order : ByteOrder) {width : Nat} {value : Int64}
    (written : width = 4 ∨ width = 8)
    (fits : width = 4 → -0x80000000 ≤ value.toInt ∧ value.toInt < 0x80000000) :
    Reads (signedWord order width) (Octets.ofNat order width value.toUInt64.toNat) value := by
  have admitted : width = 1 ∨ width = 2 ∨ width = 4 ∨ width = 8 := by
    omega
  have positive : 0 < Octets.valueCount width := by
    rcases written with rfl | rfl <;> decide
  have bound := Nat.mod_lt value.toUInt64.toNat positive
  have restored : signExtend width
      (UInt64.ofNat (value.toUInt64.toNat % Octets.valueCount width)) = value := by
    rw [← Int64.toInt_inj, toInt_signExtend admitted bound, Int.natCast_emod, Int.emod_bmod]
    have atTop : value.toInt = (value.toUInt64.toNat : Int).bmod 0x10000000000000000 := by
      rw [← Int64.toInt_toBitVec, BitVec.toInt_eq_toNat_bmod]
      simp only [Nat.reducePow]
      rfl
    rcases written with rfl | rfl
    · exact bmod_narrow atTop (fits rfl)
    · exact atTop.symm
  have read := (reads_unsignedWord order admitted bound).map (signExtend width)
  rwa [restored, ofNat_mod] at read

/-! ## Round trip -/

/-- Decode an argument whose type has been read. -/
def decodeAs (order : ByteOrder) (info : TypeInfo) : Read Argument :=
  if info.has (TypeInfo.array ||| TypeInfo.structured) then
    throw (.unsupported info.word)
  else if info.has (TypeInfo.string ||| TypeInfo.raw ||| TypeInfo.traceInfo) then
    decodeBlock order info
  else if info.has TypeInfo.boolean then
    decodeBool order info
  else if info.has (TypeInfo.signed ||| TypeInfo.unsigned ||| TypeInfo.floating) then
    decodeNumber order info
  else
    throw (.unsupported info.word)

theorem decode_eq (order : ByteOrder) :
    decode order =
      word order 4 >>= fun number => decodeAs order ⟨UInt32.ofNat number⟩ :=
  rfl

/-- The bit of a type that announces a name. -/
def namedBit (named : Bool) : UInt32 :=
  if named then TypeInfo.named else 0

theorem reads_decode (order : ByteOrder) {info : UInt32} {octets : Octets}
    {argument : Argument} (read : Reads (decodeAs order ⟨info⟩) octets argument) :
    Reads (decode order) (Octets.ofNat order 4 info.toNat ++ octets) argument := by
  rw [decode_eq]
  refine (reads_word order info.toNat_lt).bind ?_
  rw [UInt32.ofNat_toNat]
  exact read

theorem reads_text (order : ByteOrder) {name : Option String} {text : String}
    (shortName : ∀ text ∈ name, IsShort text) (shortText : IsShort text) :
    Reads (decodeAs order ⟨TypeInfo.string ||| namedBit name.isSome⟩)
      (Octets.ofNat order 2 (terminate text).length ++ (nameOctets order name ++ terminate text))
      { name := name.map cutAtNul, value := .text (cutAtNul text) } := by
  have kind : decodeAs order ⟨TypeInfo.string ||| namedBit name.isSome⟩ =
      (do
        let length ← word order 2
        let name ← nameIf order name.isSome
        let text ← terminated length
        pure { name, value := .text text }) := by
    cases name.isSome <;> rfl
  rw [kind]
  refine (reads_word order shortText).bind ?_
  refine (reads_nameIf order shortName).bind ?_
  exact (reads_terminated text).andThen _

theorem reads_raw (order : ByteOrder) {name : Option String} {data : Octets}
    (shortName : ∀ text ∈ name, IsShort text) (fitsData : data.length < 0x10000) :
    Reads (decodeAs order ⟨TypeInfo.raw ||| namedBit name.isSome⟩)
      (Octets.ofNat order 2 data.length ++ (nameOctets order name ++ data))
      { name := name.map cutAtNul, value := .raw data } := by
  have kind : decodeAs order ⟨TypeInfo.raw ||| namedBit name.isSome⟩ =
      (do
        let length ← word order 2
        let name ← nameIf order name.isSome
        let data ← take length
        pure { name, value := .raw data }) := by
    cases name.isSome <;> rfl
  rw [kind]
  refine (reads_word order fitsData).bind ?_
  refine (reads_nameIf order shortName).bind ?_
  exact (reads_take data).andThen _

theorem reads_bool (order : ByteOrder) {name : Option String} (value : Bool)
    (shortName : ∀ text ∈ name, IsShort text) :
    Reads (decodeAs order ⟨TypeInfo.boolean ||| 1 ||| namedBit name.isSome⟩)
      (nameOctets order name ++ [if value then 1 else 0])
      { name := name.map cutAtNul, value := .bool value } := by
  have kind : decodeAs order ⟨TypeInfo.boolean ||| 1 ||| namedBit name.isSome⟩ =
      (do
        let name ← nameIf order name.isSome
        let octets ← take 1
        pure { name, value := .bool (octets.any (· ≠ 0)) }) := by
    cases name.isSome <;> rfl
  rw [kind]
  refine (reads_nameIf order shortName).bind ?_
  have read := (reads_take [if value then 1 else 0]).andThen fun octets =>
    ({ name := name.map cutAtNul, value := .bool (octets.any (· ≠ 0)) } : Argument)
  cases value <;> exact read

/-- The unit with which a number arrives. -/
def arrivingUnit (name unit : Option String) : Option String :=
  if name.isSome then (unit.map cutAtNul).filter (! ·.isEmpty) else none

private theorem unit_of_getD (unit : Option String) :
    (if (cutAtNul (unit.getD "")).isEmpty then none else some (cutAtNul (unit.getD ""))) =
      (unit.map cutAtNul).filter (! ·.isEmpty) := by
  cases unit with
  | none => rfl
  | some unit =>
      rw [Option.getD_some, Option.map_some]
      cases empty : (cutAtNul unit).isEmpty <;> simp only [Option.filter, empty] <;> rfl

/-- The octets of the name and the unit of a number, if it has a name. -/
def namesOctets (order : ByteOrder) (name unit : Option String) : Octets :=
  match name with
  | some name => encodeNames order name (unit.getD "")
  | none => []

/-- An argument as it arrives. -/
def arriving (argument : Argument) : Argument :=
  { name := argument.name.map cutAtNul
    unit := if argument.value.isNumber then arrivingUnit argument.name argument.unit else none
    value :=
      match argument.value with
      | .text text => .text (cutAtNul text)
      | value => value }

theorem encode_text (order : ByteOrder) (name unit : Option String) (text : String) :
    encode order ⟨name, unit, .text text⟩ =
      Octets.ofNat order 4 (TypeInfo.string ||| namedBit name.isSome).toNat
        ++ (Octets.ofNat order 2 (terminate text).length
          ++ (nameOctets order name ++ terminate text)) := by
  cases name <;> simp only [encode, List.append_assoc] <;> rfl

theorem encode_raw (order : ByteOrder) (name unit : Option String) (data : Octets) :
    encode order ⟨name, unit, .raw data⟩ =
      Octets.ofNat order 4 (TypeInfo.raw ||| namedBit name.isSome).toNat
        ++ (Octets.ofNat order 2 data.length ++ (nameOctets order name ++ data)) := by
  cases name <;> simp only [encode, List.append_assoc] <;> rfl

theorem encode_bool (order : ByteOrder) (name unit : Option String) (value : Bool) :
    encode order ⟨name, unit, .bool value⟩ =
      Octets.ofNat order 4 (TypeInfo.boolean ||| 1 ||| namedBit name.isSome).toNat
        ++ (nameOctets order name ++ [if value then 1 else 0]) := by
  cases name <;> simp only [encode, List.append_assoc] <;> rfl

/-- How a number is written: the type that announces it, and the word behind its name. -/
structure NumberWord where
  kind : UInt32
  width : Nat
  number : Nat

/-- The word of a number; what is no number has none. -/
def numberWord? : Value → Option NumberWord
  | .signed value =>
      if -0x80000000 ≤ value.toInt ∧ value.toInt < 0x80000000 then
        some ⟨TypeInfo.signed ||| 3, 4, value.toUInt64.toNat⟩
      else
        some ⟨TypeInfo.signed ||| 4, 8, value.toUInt64.toNat⟩
  | .unsigned value =>
      if value.toNat < 0x100000000 then
        some ⟨TypeInfo.unsigned ||| 3, 4, value.toNat⟩
      else
        some ⟨TypeInfo.unsigned ||| 4, 8, value.toNat⟩
  | .float bits => some ⟨TypeInfo.floating ||| 4, 8, bits.toNat⟩
  | .bool _ | .text _ | .raw _ => none

theorem encode_number (order : ByteOrder) (name unit : Option String) {value : Value}
    {written : NumberWord} (number : numberWord? value = some written) :
    encode order ⟨name, unit, value⟩ =
      Octets.ofNat order 4 (written.kind ||| namedBit name.isSome).toNat
        ++ (namesOctets order name unit
          ++ Octets.ofNat order written.width written.number) := by
  cases value with
  | bool | text | raw => contradiction
  | float =>
      cases number
      cases name <;> simp only [encode, List.append_assoc] <;> rfl
  | signed value | unsigned value =>
      simp only [numberWord?] at number
      simp only [encode]
      split at number <;> cases number
      case isTrue.refl narrow =>
        rw [if_pos narrow]
        cases name <;> simp only [List.append_assoc] <;> rfl
      case isFalse.refl wide =>
        rw [if_neg wide]
        cases name <;> simp only [List.append_assoc] <;> rfl

/-- The types that announce a number when it is written, with the octets of its word. -/
def numberKinds : List (UInt32 × Nat) :=
  [(TypeInfo.signed ||| 3, 4), (TypeInfo.signed ||| 4, 8), (TypeInfo.unsigned ||| 3, 4),
   (TypeInfo.unsigned ||| 4, 8), (TypeInfo.floating ||| 4, 8)]

theorem numberKind_mem {value : Value} {written : NumberWord}
    (number : numberWord? value = some written) :
    (written.kind, written.width) ∈ numberKinds := by
  cases value with
  | bool | text | raw => contradiction
  | float =>
      cases number
      simp [numberKinds]
  | signed value | unsigned value =>
      simp only [numberWord?] at number
      split at number <;> cases number <;> simp [numberKinds]

private theorem has_of_mem_numberKinds :
    ∀ announced ∈ numberKinds, ∀ named : Bool,
      let info : TypeInfo := ⟨announced.1 ||| namedBit named⟩
      info.has (TypeInfo.array ||| TypeInfo.structured) = false ∧
        info.has (TypeInfo.string ||| TypeInfo.raw ||| TypeInfo.traceInfo) = false ∧
        info.has TypeInfo.boolean = false ∧
        info.has (TypeInfo.signed ||| TypeInfo.unsigned ||| TypeInfo.floating) = true ∧
        info.width? = some announced.2 ∧ info.has TypeInfo.named = named ∧
        info.has TypeInfo.fixedPoint = false := by
  decide

/-- The type of a number leads to the reading of a number of its width, without
scaling, and with a name if the bit for it is set. -/
private theorem decodeAs_number (order : ByteOrder) {value : Value} {written : NumberWord}
    (number : numberWord? value = some written) (named : Bool) :
    let info : TypeInfo := ⟨written.kind ||| namedBit named⟩
    decodeAs order info = decodeNumber order info ∧
      info.width? = some written.width ∧ info.has TypeInfo.named = named ∧
      info.has TypeInfo.fixedPoint = false := by
  obtain ⟨notArray, notBlock, notBoolean, isNumber, rest⟩ :=
    has_of_mem_numberKinds _ (numberKind_mem number) named
  dsimp only at notArray notBlock notBoolean isNumber
  refine ⟨?_, rest⟩
  simp only [decodeAs, notArray, notBlock, notBoolean, isNumber]
  rfl

theorem decodePlainNumber_signed (order : ByteOrder) {info : TypeInfo} {width : Nat}
    (notFloating : info.has TypeInfo.floating = false)
    (isSigned : info.has TypeInfo.signed = true) (narrow : width ≠ 16) :
    decodePlainNumber order info width = Value.signed <$> signedWord order width := by
  simp [decodePlainNumber, notFloating, isSigned, narrow]

theorem decodePlainNumber_unsigned (order : ByteOrder) {info : TypeInfo} {width : Nat}
    (notFloating : info.has TypeInfo.floating = false)
    (notSigned : info.has TypeInfo.signed = false) (narrow : width ≠ 16) :
    decodePlainNumber order info width = Value.unsigned <$> unsignedWord order width := by
  simp [decodePlainNumber, notFloating, notSigned, narrow]

theorem decodePlainNumber_double (order : ByteOrder) {info : TypeInfo}
    (isFloating : info.has TypeInfo.floating = true) :
    decodePlainNumber order info 8 = Value.float <$> unsignedWord order 8 := by
  simp [decodePlainNumber, isFloating]

private theorem reads_plainNumber (order : ByteOrder) {value : Value} {written : NumberWord}
    (number : numberWord? value = some written) (named : Bool) :
    Reads (decodePlainNumber order ⟨written.kind ||| namedBit named⟩ written.width)
      (Octets.ofNat order written.width written.number) value := by
  cases value with
  | bool | text | raw => contradiction
  | float bits =>
      cases number
      dsimp only
      rw [decodePlainNumber_double order (by cases named <;> decide)]
      exact (reads_uint64 order (.inr rfl) (by simp)).map Value.float
  | signed value =>
      simp only [numberWord?] at number
      split at number <;> cases number <;> dsimp only
      case isTrue.refl narrow =>
        rw [decodePlainNumber_signed order (by cases named <;> decide)
          (by cases named <;> decide) (by decide)]
        exact (reads_int64 order (.inl rfl) fun _ => narrow).map Value.signed
      case isFalse.refl wide =>
        rw [decodePlainNumber_signed order (by cases named <;> decide)
          (by cases named <;> decide) (by decide)]
        exact (reads_int64 order (.inr rfl) (by simp)).map Value.signed
  | unsigned value =>
      simp only [numberWord?] at number
      split at number <;> cases number <;> dsimp only
      case isTrue.refl narrow =>
        rw [decodePlainNumber_unsigned order (by cases named <;> decide)
          (by cases named <;> decide) (by decide)]
        exact (reads_uint64 order (.inl rfl) fun _ => narrow).map Value.unsigned
      case isFalse.refl wide =>
        rw [decodePlainNumber_unsigned order (by cases named <;> decide)
          (by cases named <;> decide) (by decide)]
        exact (reads_uint64 order (.inr rfl) (by simp)).map Value.unsigned

theorem reads_number (order : ByteOrder) {name unit : Option String} {value : Value}
    {written : NumberWord} (number : numberWord? value = some written)
    (shortName : ∀ text ∈ name, IsShort text)
    (shortUnit : name.isSome → ∀ text ∈ unit, IsShort text) :
    Reads (decodeAs order ⟨written.kind ||| namedBit name.isSome⟩)
      (namesOctets order name unit ++ Octets.ofNat order written.width written.number)
      { name := name.map cutAtNul, unit := arrivingUnit name unit, value } := by
  obtain ⟨kind, width, named, unscaled⟩ := decodeAs_number order number name.isSome
  have plain := reads_plainNumber order number name.isSome
  rw [kind]
  generalize (⟨written.kind ||| namedBit name.isSome⟩ : TypeInfo) = info at *
  have names : Reads (decodeNames order info) (namesOctets order name unit)
      (name.map cutAtNul, arrivingUnit name unit) := by
    cases name with
    | none =>
        simp only [decodeNames, named]
        exact Reads.pure _
    | some name =>
        have short : IsShort (unit.getD "") := by
          cases unit with
          | none => decide
          | some unit => exact shortUnit rfl unit rfl
        have read := reads_decodeNames order name (unit.getD "") named (shortName name rfl) short
        rw [unit_of_getD] at read
        exact read
  have scaling : decodeScaling order info written.width = pure none := by
    simp [decodeScaling, unscaled]
  simp only [decodeNumber, width]
  refine names.bind ?_
  rw [scaling, pure_bind]
  exact plain.andThen _

/-- The length that stands in front of a value; where none does, it is nothing. -/
def announcedLength : Value → Nat
  | .text text => (terminate text).length
  | .raw data => data.length
  | .bool _ | .signed _ | .unsigned _ | .float _ => 0

/-- The lengths that stand in front of the texts and the data of an argument fit their two
octets.  A unit stands on the wire behind the name of a number only. -/
structure LengthsFit (argument : Argument) : Prop where
  name : ∀ name ∈ argument.name, IsShort name
  unit : argument.value.isNumber → argument.name.isSome → ∀ unit ∈ argument.unit, IsShort unit
  value : announcedLength argument.value < 0x10000

instance (argument : Argument) : Decidable argument.LengthsFit :=
  decidable_of_iff
    ((∀ name ∈ argument.name, IsShort name) ∧
      (argument.value.isNumber → argument.name.isSome →
        ∀ unit ∈ argument.unit, IsShort unit) ∧
      announcedLength argument.value < 0x10000)
    ⟨fun ⟨name, unit, value⟩ => ⟨name, unit, value⟩,
      fun ⟨name, unit, value⟩ => ⟨name, unit, value⟩⟩

/-- The wire format of an argument is read back as it arrives, whatever follows it. -/
theorem reads_encode (order : ByteOrder) {argument : Argument} (fit : argument.LengthsFit) :
    Reads (decode order) (encode order argument) argument.arriving := by
  obtain ⟨name, unit, value⟩ := argument
  cases number : numberWord? value with
  | some written =>
      have isNumber : value.isNumber = true := by
        cases value <;> first | rfl | contradiction
      have arriving : arriving ⟨name, unit, value⟩ =
          { name := name.map cutAtNul, unit := arrivingUnit name unit, value } := by
        cases value <;> first | rfl | contradiction
      rw [encode_number order name unit number, arriving]
      exact reads_decode order (reads_number order number fit.name (fit.unit isNumber))
  | none =>
      cases value with
      | signed | unsigned =>
          simp only [numberWord?] at number
          split at number <;> contradiction
      | float => contradiction
      | text text =>
          rw [encode_text]
          exact reads_decode order (reads_text order fit.name fit.value)
      | raw data =>
          rw [encode_raw]
          exact reads_decode order (reads_raw order fit.name fit.value)
      | bool value =>
          rw [encode_bool]
          exact reads_decode order (reads_bool order value fit.name)

/-- As many of the arguments as are asked for are read back, without a fault. -/
theorem decodeMany_flatMap_encode (order : ByteOrder) {count : Nat}
    {arguments : List Argument} (enough : count ≤ arguments.length)
    (fit : ∀ argument ∈ arguments, argument.LengthsFit) :
    decodeMany order count (arguments.flatMap (encode order)) =
      ((arguments.take count).map arriving, none) := by
  induction arguments generalizing count with
  | nil =>
      have none : count = 0 := Nat.le_zero.mp enough
      subst none
      rfl
  | cons argument arguments ih =>
      cases count with
      | zero => rfl
      | succ count =>
          rw [List.forall_mem_cons] at fit
          rw [List.flatMap_cons, decodeMany, reads_encode order fit.1]
          dsimp only
          rw [ih (Nat.le_of_succ_le_succ enough) fit.2]
          rfl

/-! ## Arguments of short messages -/

theorem isShort_of_nameOctets {order : ByteOrder} {name : Option String}
    (fits : (nameOctets order name).length < 0x10000) : ∀ text ∈ name, IsShort text := by
  rintro text ⟨⟩
  simp only [nameOctets, encodeName, List.length_append] at fits
  exact Nat.lt_of_le_of_lt (Nat.le_add_left ..) fits

theorem isShort_of_namesOctets {order : ByteOrder} {name unit : Option String}
    (fits : (namesOctets order name unit).length < 0x10000) :
    (∀ text ∈ name, IsShort text) ∧ (name.isSome → ∀ text ∈ unit, IsShort text) := by
  cases name with
  | none => simp
  | some name =>
      simp only [namesOctets, encodeNames, List.length_append] at fits
      constructor
      · rintro _ ⟨⟩
        rw [IsShort]
        omega
      · rintro - text ⟨⟩
        rw [Option.getD_some] at fits
        rw [IsShort]
        omega

/-- Nothing in an argument is longer than the argument. -/
theorem lengthsFit_of_length_encode (order : ByteOrder) {argument : Argument}
    (fits : (encode order argument).length < 0x10000) : argument.LengthsFit := by
  obtain ⟨name, unit, value⟩ := argument
  cases number : numberWord? value with
  | some written =>
      rw [encode_number order name unit number] at fits
      simp only [List.length_append] at fits
      have short : (namesOctets order name unit).length < 0x10000 := by omega
      rcases isShort_of_namesOctets short with ⟨shortName, shortUnit⟩
      have unannounced : announcedLength value < 0x10000 := by
        cases value <;> first | contradiction | exact (by decide : 0 < 0x10000)
      exact ⟨shortName, fun _ => shortUnit, unannounced⟩
  | none =>
      cases value with
      | signed | unsigned =>
          simp only [numberWord?] at number
          split at number <;> contradiction
      | float => contradiction
      | text text =>
          rw [encode_text] at fits
          simp only [List.length_append] at fits
          have shortName : (nameOctets order name).length < 0x10000 := by omega
          exact ⟨isShort_of_nameOctets shortName, nofun, by rw [announcedLength]; omega⟩
      | raw data =>
          rw [encode_raw] at fits
          simp only [List.length_append] at fits
          have shortName : (nameOctets order name).length < 0x10000 := by omega
          exact ⟨isShort_of_nameOctets shortName, nofun, by rw [announcedLength]; omega⟩
      | bool value =>
          rw [encode_bool] at fits
          simp only [List.length_append] at fits
          have shortName : (nameOctets order name).length < 0x10000 := by omega
          exact ⟨isShort_of_nameOctets shortName, nofun, (by decide : 0 < 0x10000)⟩

/-- The lengths of arguments fit that fit a message together. -/
theorem lengthsFit_of_length_flatMap {order : ByteOrder} {arguments : List Argument}
    (fits : (arguments.flatMap (encode order)).length < 0x10000) :
    ∀ argument ∈ arguments, argument.LengthsFit := by
  induction arguments with
  | nil => simp
  | cons argument arguments ih =>
      rw [List.flatMap_cons, List.length_append] at fits
      rw [List.forall_mem_cons]
      exact ⟨lengthsFit_of_length_encode order (by omega), ih (by omega)⟩

end Argument

end Testbed.Trace
