import Mathlib.Data.Int.ModEq
import Testbed.Proofs.Trace.Argument
import Testbed.Proofs.Trace.Composition

/-!
# Integers of arguments

This file supplies what the words of integers come to.  A word without a sign is the number that
its octets form; one with a sign is the number of its range that leaves the same remainder.  The
sign is spread by two shifts, whose distance is computed from the width of the word.

That distance is kept apart from the decoder by a second one that notes it each time, as a
number that could leave its range on either side.  Types that announce no integer, or one that
is too wide, never come as far as a shift or a word of another width.
-/

namespace Testbed.Trace

/-! ## Noted shifts -/

namespace Noting

/-- A step of decoding that notes the distances of its shifts. -/
abbrev Read (α : Type) :=
  StateT Octets (ExceptT ArgumentFault (StateM (List Int))) α

/-- A step that shifts nothing. -/
def still {α : Type} (step : Argument.Read α) : Read α :=
  fun octets => ExceptT.mk (pure (step octets))

/-- A two's complement integer of 1, 2, 4 or 8 octets. -/
def signedWord (order : ByteOrder) (width : Nat) : Read Int64 := do
  let value ← still (Argument.unsignedWord order width)
  let distance : Int := 64 - 8 * width
  modifyThe (List Int) fun distances => distances ++ [distance]
  pure ((value <<< UInt64.ofInt distance).toInt64 >>> Int64.ofInt distance)

/-- Factor and offset of a fixed-point integer. -/
def decodeScaling (order : ByteOrder) (info : TypeInfo) (width : Nat) :
    Read (Option (Float × Float)) := do
  if info.has TypeInfo.fixedPoint && !info.has TypeInfo.floating then
    let factor ← still (Argument.word order 4)
    if width = 16 then
      throw (.unsupported info.word)
    else
      let offset ← signedWord order (if width = 8 then 8 else 4)
      pure (some (Argument.widen (UInt32.ofNat factor), Float.ofInt offset.toInt))
  else
    pure none

/-- The value of a number, before scaling. -/
def decodePlainNumber (order : ByteOrder) (info : TypeInfo) (width : Nat) : Read Value := do
  if width = 16 || (info.has TypeInfo.floating && width = 2) then
    let octets ← still (Argument.take width)
    pure (.raw (octets.mostSignificantFirst order))
  else if info.has TypeInfo.floating then
    if width = 4 then
      let bits ← still (Argument.word order 4)
      pure (.float (Argument.widen (UInt32.ofNat bits)).toBits)
    else if width = 8 then
      .float <$> still (Argument.unsignedWord order 8)
    else
      throw (.unsupported info.word)
  else if info.has TypeInfo.signed then
    .signed <$> signedWord order width
  else
    .unsigned <$> still (Argument.unsignedWord order width)

/-- An integer or floating-point number. -/
def decodeNumber (order : ByteOrder) (info : TypeInfo) : Read Argument := do
  match info.width? with
  | none => throw (.unsupported info.word)
  | some width =>
      let (name, unit) ← still (Argument.decodeNames order info)
      let scaling ← decodeScaling order info width
      let value ← decodePlainNumber order info width
      pure { name, unit, value := Argument.scale scaling value }

/-- Decode one argument. -/
def decode (order : ByteOrder) : Read Argument := do
  let info : TypeInfo := ⟨UInt32.ofNat (← still (Argument.word order 4))⟩
  if info.has (TypeInfo.array ||| TypeInfo.structured) then
    throw (.unsupported info.word)
  else if info.has (TypeInfo.string ||| TypeInfo.raw ||| TypeInfo.traceInfo) then
    still (Argument.decodeBlock order info)
  else if info.has TypeInfo.boolean then
    still (Argument.decodeBool order info)
  else if info.has (TypeInfo.signed ||| TypeInfo.unsigned ||| TypeInfo.floating) then
    decodeNumber order info
  else
    throw (.unsupported info.word)

/-- Decode up to `count` arguments. -/
def decodeMany (order : ByteOrder) : Nat → Octets →
    StateM (List Int) (List Argument × Option ArgumentFault)
  | 0, _ => pure ([], none)
  | count + 1, octets => do
      match ← decode order octets with
      | .error fault => pure ([], some fault)
      | .ok (argument, rest) =>
          let (arguments, fault) ← decodeMany order count rest
          pure (argument :: arguments, fault)

/-! ## Agreement -/

theorem bind_apply {α β : Type} (step : Read α) (next : α → Read β) (octets : Octets)
    (distances : List Int) :
    (step >>= next) octets distances =
      match step octets distances with
      | (.ok (value, rest), noted) => next value rest noted
      | (.error fault, noted) => (.error fault, noted) := by
  change (ExceptT.bindCont (fun taken : α × Octets => next taken.1 taken.2)
    (step octets distances).1) (step octets distances).2 = _
  rcases step octets distances with ⟨_ | _, noted⟩ <;> rfl

/-- Distances by which a word of 64 bits can be shifted so that an octet is left. -/
def InRange (distances : List Int) : Prop :=
  ∀ distance ∈ distances, 0 ≤ distance ∧ distance ≤ 56

/-- A step does what another step does, and shifts by distances in range only. -/
def Agrees {α : Type} (noting : Read α) (plain : Argument.Read α) : Prop :=
  ∀ octets distances, InRange distances →
    ∃ noted, noting octets distances = (plain octets, noted) ∧ InRange noted

namespace Agrees

variable {α β : Type} {noting : Read α} {plain : Argument.Read α}

theorem still (step : Argument.Read α) : Agrees (still step) step :=
  fun _ distances inRange => ⟨distances, rfl, inRange⟩

theorem pure (value : α) : Agrees (Pure.pure value) (Pure.pure value) :=
  still (Pure.pure value)

theorem throw (fault : ArgumentFault) :
    Agrees (MonadExcept.throw fault : Read α) (MonadExcept.throw fault) :=
  still (MonadExcept.throw fault)

theorem bind {next : α → Read β} {after : α → Argument.Read β} (first : Agrees noting plain)
    (second : ∀ value, Agrees (next value) (after value)) :
    Agrees (noting >>= next) (plain >>= after) := by
  intro octets distances inRange
  obtain ⟨noted, given, notedInRange⟩ := first octets distances inRange
  rw [bind_apply, Argument.bind_apply, given]
  cases plain octets with
  | error fault => exact ⟨noted, rfl, notedInRange⟩
  | ok taken => exact second taken.1 taken.2 noted notedInRange

theorem map (transform : α → β) (agrees : Agrees noting plain) :
    Agrees (transform <$> noting) (transform <$> plain) := by
  rw [map_eq_pure_bind, map_eq_pure_bind]
  exact agrees.bind fun value => pure (transform value)

theorem ite {condition : Prop} [Decidable condition] {other : Read α}
    {otherPlain : Argument.Read α} (yes : condition → Agrees noting plain)
    (no : ¬condition → Agrees other otherPlain) :
    Agrees (if condition then noting else other) (if condition then plain else otherPlain) := by
  split
  next holds => exact yes holds
  next fails => exact no fails

end Agrees

/-- A word with a sign is shifted only if it has been read, and then its width leaves a distance
in range. -/
theorem agrees_signedWord (order : ByteOrder) (width : Nat) :
    Agrees (signedWord order width) (Argument.signedWord order width) := by
  by_cases admitted : width = 1 ∨ width = 2 ∨ width = 4 ∨ width = 8
  · refine (Agrees.still _).bind fun value => ?_
    intro octets distances inRange
    refine ⟨distances ++ [64 - 8 * (width : Int)], ?_, ?_⟩
    · rcases admitted with rfl | rfl | rfl | rfl <;> rfl
    · intro distance noted
      rw [List.mem_append, List.mem_singleton] at noted
      rcases noted with earlier | rfl
      · exact inRange distance earlier
      · omega
  · -- The word is refused before any shift.
    have refused : Argument.unsignedWord order width = throw (.width width) := by
      rw [Argument.unsignedWord, if_neg admitted]
    rw [signedWord, Argument.signedWord, refused]
    exact Agrees.throw (.width width)

theorem agrees_decodeScaling (order : ByteOrder) (info : TypeInfo) (width : Nat) :
    Agrees (decodeScaling order info width) (Argument.decodeScaling order info width) := by
  apply Agrees.ite
  · intro _
    refine (Agrees.still _).bind fun factor => ?_
    apply Agrees.ite
    · intro _
      exact .throw _
    · intro _
      exact (agrees_signedWord order _).bind fun _ => .pure _
  · intro _
    exact .pure _

theorem agrees_decodePlainNumber (order : ByteOrder) (info : TypeInfo) (width : Nat) :
    Agrees (decodePlainNumber order info width)
      (Argument.decodePlainNumber order info width) := by
  apply Agrees.ite
  · intro _
    exact (Agrees.still _).bind fun _ => .pure _
  · intro _
    apply Agrees.ite
    · intro _
      apply Agrees.ite
      · intro _
        exact (Agrees.still _).bind fun _ => .pure _
      · intro _
        apply Agrees.ite
        · intro _
          exact (Agrees.still _).map _
        · intro _
          exact .throw _
    · intro _
      apply Agrees.ite
      · intro _
        exact (agrees_signedWord order width).map _
      · intro _
        exact (Agrees.still _).map _

theorem agrees_decodeNumber (order : ByteOrder) (info : TypeInfo) :
    Agrees (decodeNumber order info) (Argument.decodeNumber order info) := by
  rw [decodeNumber, Argument.decodeNumber]
  cases info.width? with
  | none => exact .throw _
  | some width =>
      refine (Agrees.still _).bind fun names => ?_
      refine (agrees_decodeScaling order info width).bind fun scaling => ?_
      exact (agrees_decodePlainNumber order info width).bind fun _ => .pure _

theorem agrees_decode (order : ByteOrder) : Agrees (decode order) (Argument.decode order) := by
  refine (Agrees.still _).bind fun info => ?_
  apply Agrees.ite
  · intro _
    exact .throw _
  · intro _
    apply Agrees.ite
    · intro _
      exact .still _
    · intro _
      apply Agrees.ite
      · intro _
        exact .still _
      · intro _
        apply Agrees.ite
        · intro _
          exact agrees_decodeNumber order _
        · intro _
          exact .throw _

theorem decodeMany_succ_apply (order : ByteOrder) (count : Nat) (octets : Octets)
    (distances : List Int) :
    decodeMany order (count + 1) octets distances =
      match decode order octets distances with
      | (.error fault, noted) => (([], some fault), noted)
      | (.ok (argument, rest), noted) =>
          let later := decodeMany order count rest noted
          ((argument :: later.1.1, later.1.2), later.2) := by
  rw [decodeMany]
  change StateT.bind (decode order octets) _ distances = _
  rw [StateT.bind]
  change (match decode order octets distances with | (taken, noted) => _) = _
  rcases decode order octets distances with ⟨_ | _, noted⟩ <;> rfl

/-- Every shift on the way through a payload is in range. -/
theorem decodeMany_eq (order : ByteOrder) (count : Nat) (octets : Octets)
    {distances : List Int} (inRange : InRange distances) :
    ∃ noted, decodeMany order count octets distances =
        (Argument.decodeMany order count octets, noted) ∧ InRange noted := by
  induction count generalizing octets distances with
  | zero => exact ⟨distances, rfl, inRange⟩
  | succ count ih =>
      obtain ⟨noted, given, notedInRange⟩ := agrees_decode order octets distances inRange
      rw [decodeMany_succ_apply, Argument.decodeMany, given]
      cases Argument.decode order octets with
      | error fault => exact ⟨noted, rfl, notedInRange⟩
      | ok taken =>
          obtain ⟨later, givenLater, laterInRange⟩ := ih taken.2 notedInRange
          refine ⟨later, ?_, laterInRange⟩
          dsimp only
          rw [givenLater]

end Noting

/-! ## Numbers of words -/

/-- A number within the range of words of `width` octets that have a sign, which leaves the same
remainder as `number`. -/
structure IsTwosComplement (width number : Nat) (value : Int) : Prop where
  lower : -2 ^ (8 * width - 1) ≤ value
  upper : value < 2 ^ (8 * width - 1)
  congruent : value ≡ number [ZMOD 2 ^ (8 * width)]

theorem valueCount_eq (width : Nat) : Octets.valueCount width = 2 ^ (8 * width) := by
  induction width with
  | zero => rfl
  | succ width ih =>
      rw [Octets.valueCount, ih, Nat.mul_add, Nat.pow_add]
      omega

/-- The range and the remainder leave one number. -/
theorem isTwosComplement_iff {width number : Nat} {value : Int} (positive : 0 < width) :
    IsTwosComplement width number value ↔
      (number : Int).bmod (Octets.valueCount width) = value := by
  have doubled : (2 : Int) ^ (8 * width) = 2 * 2 ^ (8 * width - 1) := by
    rw [← pow_succ', Nat.sub_add_cancel (by omega)]
  have count : ((Octets.valueCount width : Nat) : Int) = 2 * 2 ^ (8 * width - 1) := by
    rw [valueCount_eq, ← doubled]
    push_cast
    rfl
  have some_value : 0 < Octets.valueCount width := by
    rw [valueCount_eq]
    exact Nat.two_pow_pos _
  rw [Int.bmod_eq_iff some_value, count, ← doubled]
  constructor
  · rintro ⟨lower, upper, congruent⟩
    exact ⟨by omega, by omega, congruent.symm.dvd⟩
  · rintro ⟨lower, upper, divides⟩
    exact ⟨by omega, by omega, (Int.modEq_iff_dvd.mpr divides).symm⟩

theorem TypeInfo.has_or (info : TypeInfo) (first second : UInt32) :
    info.has (first ||| second) = (info.has first || info.has second) := by
  have distributed : info.word &&& (first ||| second) =
      (info.word &&& first) ||| (info.word &&& second) := by
    apply UInt32.toBitVec_inj.mp
    simp only [UInt32.toBitVec_and, UInt32.toBitVec_or, BitVec.and_or_distrib_left]
  rw [has, has, has, distributed, Bool.eq_iff_iff]
  simp only [bne_iff_ne, ne_eq, UInt32.or_eq_zero_iff, Bool.or_eq_true, not_and_or]

/-- The type announces an integer in a word of `width` octets, without scaling.  Its other bits
may be anything. -/
structure TypeInfo.AnnouncesInteger (info : TypeInfo) (width : Nat) : Prop where
  notArray : info.has (array ||| structured) = false
  notBlock : info.has (string ||| raw ||| traceInfo) = false
  notBoolean : info.has boolean = false
  notFloating : info.has floating = false
  integer : info.has (signed ||| unsigned) = true
  unscaled : info.has fixedPoint = false
  announced : info.width? = some width
  admitted : width = 1 ∨ width = 2 ∨ width = 4 ∨ width = 8

namespace Argument

variable {order : ByteOrder}

/-! ## Octets of integers -/

theorem reads_ofLength {count : Nat} {octets : Octets} (counted : octets.length = count) :
    Reads (word order count) octets (Octets.toNat order octets) := by
  subst counted
  exact (reads_take octets).map (Octets.toNat order)

/-- The text of octets up to the first that is zero. -/
def textOf (octets : Octets) : String :=
  Text.Utf8.decode (octets.takeWhile (· ≠ 0))

theorem reads_textOf (octets : Octets) :
    Reads (terminated octets.length) octets (textOf octets) :=
  (reads_take octets).andThen textOf

/-- The octets between the type of a number and its word, with the name and the unit that they
give: if a name is announced, the lengths of both and then both. -/
inductive NamesTaken (order : ByteOrder) : Bool → Octets → Option String → Option String → Prop
  | absent : NamesTaken order false [] none none
  | present {nameField unitField name unit : Octets}
      (nameSized : nameField.length = 2) (unitSized : unitField.length = 2)
      (nameCounted : Octets.toNat order nameField = name.length)
      (unitCounted : Octets.toNat order unitField = unit.length) :
      NamesTaken order true (nameField ++ (unitField ++ (name ++ unit))) (some (textOf name))
        (if (textOf unit).isEmpty then none else some (textOf unit))

theorem reads_names {info : TypeInfo} {names : Octets} {name unit : Option String}
    (taken : NamesTaken order (info.has TypeInfo.named) names name unit) :
    Reads (decodeNames order info) names (name, unit) := by
  rw [decodeNames]
  generalize info.has TypeInfo.named = named at taken
  cases taken with
  | absent => exact Reads.pure (none, none)
  | @present nameField unitField name unit nameSized unitSized nameCounted unitCounted =>
      have nameLength : Reads (word order 2) nameField name.length := by
        rw [← nameCounted]
        exact reads_ofLength nameSized
      have unitLength : Reads (word order 2) unitField unit.length := by
        rw [← unitCounted]
        exact reads_ofLength unitSized
      refine nameLength.bind (unitLength.bind ?_)
      exact (reads_textOf _).bind ((reads_textOf _).andThen _)

/-- The number that a word stands for: itself without a sign, and with a sign the one number of
its range that leaves the same remainder. -/
inductive IsNumberOf (info : TypeInfo) (width number : Nat) : Value → Prop
  | unsigned {value : UInt64} (unsigned : info.has TypeInfo.signed = false)
      (same : value.toNat = number) : IsNumberOf info width number (.unsigned value)
  | signed {value : Int64} (signed : info.has TypeInfo.signed = true)
      (complement : IsTwosComplement width number value.toInt)
      (only : ∀ other, IsTwosComplement width number other → other = value.toInt) :
      IsNumberOf info width number (.signed value)

theorem exists_reads_number {info : TypeInfo} {width : Nat} {octets : Octets}
    (announces : info.AnnouncesInteger width) (sized : octets.length = width) :
    ∃ value, Reads (decodePlainNumber order info width) octets value ∧
      IsNumberOf info width (Octets.toNat order octets) value := by
  have narrow : width ≠ 16 := by
    rcases announces.admitted with rfl | rfl | rfl | rfl <;> decide
  have positive : 0 < width := by
    rcases announces.admitted with rfl | rfl | rfl | rfl <;> decide
  have bound := Octets.toNat_lt order octets
  rw [sized] at bound
  have read : Reads (unsignedWord order width) octets
      (UInt64.ofNat (Octets.toNat order octets)) := by
    rw [unsignedWord, if_pos announces.admitted]
    exact (reads_ofLength sized).map UInt64.ofNat
  cases isSigned : info.has TypeInfo.signed with
  | false =>
      rw [decodePlainNumber_unsigned order announces.notFloating isSigned narrow]
      have fits : Octets.valueCount width ≤ 2 ^ 64 := by
        rcases announces.admitted with rfl | rfl | rfl | rfl <;> decide
      have same := UInt64.toNat_ofNat_of_lt' (Nat.lt_of_lt_of_le bound fits)
      exact ⟨_, read.map Value.unsigned, .unsigned isSigned same⟩
  | true =>
      rw [decodePlainNumber_signed order announces.notFloating isSigned narrow]
      have spread := toInt_signExtend announces.admitted bound
      refine ⟨_, (read.andThen (signExtend width)).map Value.signed, .signed isSigned ?_ ?_⟩
      · exact (isTwosComplement_iff positive).mpr spread.symm
      · intro other complement
        rw [spread, (isTwosComplement_iff positive).mp complement]

/-- The type that four octets spell. -/
def typeOf (order : ByteOrder) (octets : Octets) : TypeInfo :=
  ⟨UInt32.ofNat (Octets.toNat order octets)⟩

theorem decodeAs_integer {info : TypeInfo} {width : Nat}
    (announces : info.AnnouncesInteger width) :
    decodeAs order info =
      decodeNames order info >>= fun names =>
        decodePlainNumber order info width >>= fun value =>
          pure { name := names.1, unit := names.2, value } := by
  have number : info.has (TypeInfo.signed ||| TypeInfo.unsigned ||| TypeInfo.floating) = true := by
    rw [TypeInfo.has_or, announces.integer, Bool.true_or]
  have unscaled : decodeScaling order info width = pure none := by
    simp [decodeScaling, announces.unscaled]
  simp only [decodeAs, announces.notArray, announces.notBlock, announces.notBoolean, number,
    decodeNumber, announces.announced, unscaled, pure_bind]
  rfl

theorem exists_reads_integer {type names octets : Octets} {width : Nat}
    {name unit : Option String} (typed : type.length = 4)
    (announces : (typeOf order type).AnnouncesInteger width)
    (taken : NamesTaken order ((typeOf order type).has TypeInfo.named) names name unit)
    (sized : octets.length = width) :
    ∃ value, Reads (decode order) (type ++ (names ++ octets)) { name, unit, value } ∧
      IsNumberOf (typeOf order type) width (Octets.toNat order octets) value := by
  obtain ⟨value, read, number⟩ := exists_reads_number announces sized
  refine ⟨value, ?_, number⟩
  rw [decode_eq]
  refine (reads_ofLength typed).bind ?_
  change Reads (decodeAs order (typeOf order type)) _ _
  rw [decodeAs_integer announces]
  exact (reads_names taken).bind (read.andThen _)

theorem decodeMany_of_reads {octets : Octets} {argument : Argument}
    (read : Reads (decode order) octets argument) (count : Nat) (rest : Octets) :
    decodeMany order (count + 1) (octets ++ rest) =
      (argument :: (decodeMany order count rest).1, (decodeMany order count rest).2) := by
  rw [decodeMany, read]

/-! ## Faults of payloads -/

theorem fault_decodeMany {count : Nat} {octets : Octets} {fault : ArgumentFault}
    (reported : (decodeMany order count octets).2 = some fault) :
    fault.IsTruncation ∨ ∃ word, fault = .unsupported word := by
  induction count generalizing octets with
  | zero => cases reported
  | succ count ih =>
      rw [decodeMany] at reported
      cases decoded : decode order octets with
      | error early =>
          rw [decoded] at reported
          cases reported
          exact (composed_decode order).fault decoded
      | ok taken =>
          rw [decoded] at reported
          exact ih reported

/-- No payload comes to a word of another width than 1, 2, 4 or 8 octets, and no shift to a
distance that a word of 64 bits does not allow.  An integer with all its octets is decoded as the
number that its word stands for, whatever follows it. -/
theorem integers_decoded_exactly (order : ByteOrder) :
    (∀ count octets,
      (∀ width, (decodeMany order count octets).2 ≠ some (.width width)) ∧
      ∃ distances,
        Noting.decodeMany order count octets [] = (decodeMany order count octets, distances) ∧
          ∀ distance ∈ distances, 0 ≤ distance ∧ distance ≤ 56) ∧
    ∀ type names octets width name unit, type.length = 4 →
      (typeOf order type).AnnouncesInteger width →
      NamesTaken order ((typeOf order type).has TypeInfo.named) names name unit →
      octets.length = width →
      ∃ value, IsNumberOf (typeOf order type) width (Octets.toNat order octets) value ∧
        ∀ count rest,
          decodeMany order (count + 1) (type ++ (names ++ octets) ++ rest) =
            ({ name, unit, value } :: (decodeMany order count rest).1,
              (decodeMany order count rest).2) := by
  refine ⟨fun count octets => ⟨?_, ?_⟩, ?_⟩
  · intro width reported
    rcases fault_decodeMany reported with ⟨_, _, other, _⟩ | ⟨_, other⟩ <;> cases other
  · exact Noting.decodeMany_eq order count octets nofun
  · intro type names octets width name unit typed announces taken sized
    obtain ⟨value, read, number⟩ := exists_reads_integer typed announces taken sized
    exact ⟨value, number, decodeMany_of_reads read⟩

/-- A named number of two octets with a sign. -/
theorem integers_decoded_exactly_named :
    ∃ value, value.toInt = -300 ∧
      decodeMany .little 1 [0x22, 0x08, 0, 0, 2, 0, 1, 0, 0x74, 0, 0, 0xD4, 0xFE] =
        ([{ name := some "t", value := .signed value }], none) := by
  have announces : (typeOf .little [0x22, 0x08, 0, 0]).AnnouncesInteger 2 := by
    constructor <;> decide
  have taken : NamesTaken .little ((typeOf .little [0x22, 0x08, 0, 0]).has TypeInfo.named)
      [2, 0, 1, 0, 0x74, 0, 0] (some "t") none :=
    @NamesTaken.present .little [2, 0] [1, 0] [0x74, 0] [0] rfl rfl rfl rfl
  obtain ⟨value, number, decoded⟩ :=
    (integers_decoded_exactly .little).2 _ _ [0xD4, 0xFE] _ _ _ rfl announces taken rfl
  cases number with
  | unsigned unsigned _ => exact absurd unsigned (by decide)
  | @signed value _ _ only =>
      have complement : IsTwosComplement 2 (Octets.toNat .little [0xD4, 0xFE]) (-300) := by
        constructor <;> decide
      exact ⟨value, (only _ complement).symm, decoded 0 []⟩

end Argument

end Testbed.Trace
