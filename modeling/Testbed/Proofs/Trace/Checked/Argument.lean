import Testbed.Proofs.Octets
import Testbed.Trace.Argument

/-!
# Arguments read by position

This file supplies the reader of arguments with every octet taken by its position, as
a program without exact splitting takes it: a length is compared first, then a slice
is taken.  A position out of range is none, apart from the faults that an argument can
have.

No position is ever out of range: each step agrees with the step that splits exactly.
-/

namespace Testbed.Trace.Checked

/-- A step of decoding that may take octets out of range. -/
abbrev Read (α : Type) :=
  StateT Octets (ExceptT ArgumentFault Option) α

/-- What an access by position gave. -/
def access {α : Type} (found : Option α) : Read α := fun octets =>
  found.map fun value => .ok (value, octets)

/-! ## Reading words -/

/-- Take exactly `count` octets. -/
def take (count : Nat) : Read Octets := fun octets =>
  if octets.length < count then
    some (.error (.truncated count octets.length))
  else
    (Octets.splitAt? octets count).map .ok

/-- Take octets into a place for `count` of them, which they must fill. -/
def array (count : Nat) : Read Octets := do
  let taken ← take count
  access (Octets.fill? taken count)

/-- A word of `width` octets, as a number. -/
def word (order : ByteOrder) (width : Nat) : Read Nat :=
  Octets.toNat order <$> array width

/-- An unsigned integer of 1, 2, 4 or 8 octets. -/
def unsignedWord (order : ByteOrder) (width : Nat) : Read UInt64 :=
  if width = 1 then do
    let taken ← take 1
    access (taken[0]?.map UInt8.toUInt64)
  else if width = 2 ∨ width = 4 ∨ width = 8 then
    UInt64.ofNat <$> word order width
  else
    throw (.width width)

/-- A two's complement integer of 1, 2, 4 or 8 octets. -/
def signedWord (order : ByteOrder) (width : Nat) : Read Int64 := do
  let value ← unsignedWord order width
  let shift := 64 - 8 * width
  pure ((value <<< UInt64.ofNat shift).toInt64 >>> Int64.ofNat shift)

/-- A text of `length` octets, cut at the position of its first NUL. -/
def terminated (length : Nat) : Read String := do
  let octets ← take length
  access ((Octets.slice? octets 0 (octets.findIdx (· = 0))).map Text.Utf8.decode)

/-- A name behind its length, if names are announced. -/
def nameIf (order : ByteOrder) (announced : Bool) : Read (Option String) := do
  if announced then
    let length ← word order 2
    some <$> terminated length
  else
    pure none

/-! ## Decoding -/

/-- Text, raw data or trace information. -/
def decodeBlock (order : ByteOrder) (info : TypeInfo) : Read Argument := do
  let length ← word order 2
  let name ← nameIf order (info.has TypeInfo.named && !info.has TypeInfo.traceInfo)
  if info.has TypeInfo.raw then
    let data ← take length
    pure { name, value := .raw data }
  else
    let text ← terminated length
    pure { name, value := .text text }

/-- A truth value. -/
def decodeBool (order : ByteOrder) (info : TypeInfo) : Read Argument := do
  let name ← nameIf order (info.has TypeInfo.named)
  let octets ← take (info.width?.getD 1)
  pure { name, value := .bool (octets.any (· ≠ 0)) }

/-- Name and unit of a number. -/
def decodeNames (order : ByteOrder) (info : TypeInfo) :
    Read (Option String × Option String) := do
  if info.has TypeInfo.named then
    let nameLength ← word order 2
    let unitLength ← word order 2
    let name ← terminated nameLength
    let unit ← terminated unitLength
    pure (some name, if unit.isEmpty then none else some unit)
  else
    pure (none, none)

/-- Factor and offset of a fixed-point integer. -/
def decodeScaling (order : ByteOrder) (info : TypeInfo) (width : Nat) :
    Read (Option (Float × Float)) := do
  if info.has TypeInfo.fixedPoint && !info.has TypeInfo.floating then
    let factor ← word order 4
    if width = 16 then
      throw (.unsupported info.word)
    else
      let offset ← signedWord order (if width = 8 then 8 else 4)
      pure (some (Argument.widen (UInt32.ofNat factor), Float.ofInt offset.toInt))
  else
    pure none

/-- The value of a number, before scaling. -/
def decodePlainNumber (order : ByteOrder) (info : TypeInfo) (width : Nat) : Read Value := do
  if width = 16 || (info.has TypeInfo.floating && width = 2) then
    let octets ← take width
    pure (.raw (octets.mostSignificantFirst order))
  else if info.has TypeInfo.floating then
    if width = 4 then
      let bits ← word order 4
      pure (.float (Argument.widen (UInt32.ofNat bits)).toBits)
    else if width = 8 then
      .float <$> unsignedWord order 8
    else
      throw (.unsupported info.word)
  else if info.has TypeInfo.signed then
    .signed <$> signedWord order width
  else
    .unsigned <$> unsignedWord order width

/-- An integer or floating-point number. -/
def decodeNumber (order : ByteOrder) (info : TypeInfo) : Read Argument := do
  match info.width? with
  | none => throw (.unsupported info.word)
  | some width =>
      let (name, unit) ← decodeNames order info
      let scaling ← decodeScaling order info width
      let value ← decodePlainNumber order info width
      pure { name, unit, value := Argument.scale scaling value }

/-- Decode one argument. -/
def decodeArgument (order : ByteOrder) : Read Argument := do
  let info : TypeInfo := ⟨UInt32.ofNat (← word order 4)⟩
  if info.has (TypeInfo.array ||| TypeInfo.structured) then
    throw (.unsupported info.word)
  else if info.has (TypeInfo.string ||| TypeInfo.raw ||| TypeInfo.traceInfo) then
    decodeBlock order info
  else if info.has TypeInfo.boolean then
    decodeBool order info
  else if info.has (TypeInfo.signed ||| TypeInfo.unsigned ||| TypeInfo.floating) then
    decodeNumber order info
  else
    throw (.unsupported info.word)

/-- Decode up to `count` arguments; none if an octet is taken out of range. -/
def decodeMany? (order : ByteOrder) : Nat → Octets →
    Option (List Argument × Option ArgumentFault)
  | 0, _ => some ([], none)
  | count + 1, octets => do
      match ← decodeArgument order octets with
      | .error fault => pure ([], some fault)
      | .ok (argument, rest) =>
          let (arguments, fault) ← decodeMany? order count rest
          pure (argument :: arguments, fault)

/-! ## Agreement -/

/-- A step takes no octet out of range and does what another step does. -/
def Agrees {α : Type} (checked : Read α) (plain : Argument.Read α) : Prop :=
  ∀ octets, checked octets = some (plain octets)

namespace Agrees

variable {α β : Type} {checked : Read α} {plain : Argument.Read α}

theorem pure (value : α) : Agrees (Pure.pure value) (Pure.pure value) :=
  fun _ => rfl

theorem throw (fault : ArgumentFault) :
    Agrees (MonadExcept.throw fault : Read α) (MonadExcept.throw fault) :=
  fun _ => rfl

theorem bind {next : α → Read β} {after : α → Argument.Read β} (first : Agrees checked plain)
    (second : ∀ value, Agrees (next value) (after value)) :
    Agrees (checked >>= next) (plain >>= after) := by
  intro octets
  have given := first octets
  cases result : plain octets with
  | error fault =>
      rw [result] at given
      change ExceptT.bind (checked octets) _ = some (plain octets >>= _)
      rw [given, result]
      rfl
  | ok taken =>
      rw [result] at given
      change ExceptT.bind (checked octets) _ = some (plain octets >>= _)
      rw [given, result]
      exact second taken.1 taken.2

theorem map (transform : α → β) (agrees : Agrees checked plain) :
    Agrees (transform <$> checked) (transform <$> plain) := by
  rw [map_eq_pure_bind, map_eq_pure_bind]
  exact agrees.bind fun value => pure (transform value)

/-- An access to what a step gave, which is in range whatever that is. -/
theorem access (find : α → Option β) (keep : α → β) (agrees : Agrees checked plain)
    (inRange : ∀ octets value rest, plain octets = .ok (value, rest) →
      find value = some (keep value)) :
    Agrees (checked >>= fun value => Checked.access (find value)) (keep <$> plain) := by
  intro octets
  have given := agrees octets
  change ExceptT.bind (checked octets) _ = some ((keep <$> plain) octets)
  rw [map_eq_pure_bind]
  change _ = some (plain octets >>= _)
  cases result : plain octets with
  | error fault =>
      rw [given, result]
      rfl
  | ok taken =>
      have found := inRange octets taken.1 taken.2 result
      rw [given, result]
      change (find taken.1).map _ = _
      rw [found]
      rfl

theorem ite {condition : Prop} [Decidable condition] {other : Read α}
    {otherPlain : Argument.Read α} (yes : condition → Agrees checked plain)
    (no : ¬condition → Agrees other otherPlain) :
    Agrees (if condition then checked else other) (if condition then plain else otherPlain) := by
  split
  next holds => exact yes holds
  next fails => exact no fails

end Agrees

theorem agrees_take (count : Nat) : Agrees (take count) (Argument.take count) := by
  intro octets
  rw [take, Argument.take]
  split
  next short => rw [splitExactly?_eq_none_iff.mpr short]
  next enough =>
    rw [splitExactly?_of_le (Nat.le_of_not_lt enough),
      Octets.splitAt?_of_le (Nat.le_of_not_lt enough)]
    rfl

theorem length_of_take {count : Nat} {octets taken rest : Octets}
    (takes : Argument.take count octets = .ok (taken, rest)) : taken.length = count := by
  rw [Argument.take] at takes
  split at takes
  next split =>
    cases takes
    exact (splitExactly?_eq_some_iff.mp split).2
  next => contradiction

/-- What was taken fills its place, for exactly as much was taken. -/
theorem agrees_array (count : Nat) : Agrees (array count) (Argument.take count) := by
  have filled := (agrees_take count).access (fun taken => Octets.fill? taken count) id
    fun _ _ _ takes => if_pos (length_of_take takes)
  rw [id_map] at filled
  exact filled

theorem agrees_word (order : ByteOrder) (width : Nat) :
    Agrees (word order width) (Argument.word order width) :=
  (agrees_array width).map _

private theorem toUInt64_single (order : ByteOrder) (octet : UInt8) :
    UInt64.ofNat (Octets.toNat order [octet]) = octet.toUInt64 := by
  have number : Octets.toNat order [octet] = octet.toNat := by
    cases order <;> rfl
  rw [number, UInt64.ofNat_uInt8ToNat]

theorem agrees_unsignedWord (order : ByteOrder) (width : Nat) :
    Agrees (unsignedWord order width) (Argument.unsignedWord order width) := by
  rw [unsignedWord, Argument.unsignedWord]
  by_cases single : width = 1
  · subst single
    rw [if_pos rfl, if_pos (.inl rfl), Argument.word, Functor.map_map]
    refine (agrees_take 1).access _ _ fun octets taken rest takes => ?_
    obtain ⟨octet, rfl⟩ := List.length_eq_one_iff.mp (length_of_take takes)
    rw [toUInt64_single]
    rfl
  · simp only [single, if_false, false_or]
    exact .ite (fun _ => (agrees_word order width).map _) (fun _ => .throw _)

theorem agrees_signedWord (order : ByteOrder) (width : Nat) :
    Agrees (signedWord order width) (Argument.signedWord order width) :=
  (agrees_unsignedWord order width).bind fun _ => .pure _

/-- The octets up to the position of a zero are those in front of it. -/
theorem slice?_findIdx (octets : Octets) :
    Octets.slice? octets 0 (octets.findIdx (· = 0)) = some (octets.takeWhile (· ≠ 0)) := by
  have room : octets.findIdx (· = 0) ≤ octets.length := List.findIdx_le_length
  rw [Octets.slice?, if_pos ⟨Nat.zero_le _, room⟩, List.takeWhile_eq_take_findIdx_not]
  simp

theorem agrees_terminated (length : Nat) :
    Agrees (terminated length) (Argument.terminated length) := by
  rw [Argument.terminated, ← map_eq_pure_bind]
  refine (agrees_take length).access _ _ fun _ octets _ _ => ?_
  rw [slice?_findIdx]
  rfl

theorem agrees_nameIf (order : ByteOrder) (announced : Bool) :
    Agrees (nameIf order announced) (Argument.nameIf order announced) := by
  apply Agrees.ite
  · intro _
    exact (agrees_word order 2).bind fun length => (agrees_terminated length).map _
  · intro _
    exact .pure none

theorem agrees_decodeBlock (order : ByteOrder) (info : TypeInfo) :
    Agrees (decodeBlock order info) (Argument.decodeBlock order info) := by
  refine (agrees_word order 2).bind fun length => ?_
  refine (agrees_nameIf order _).bind fun name => ?_
  apply Agrees.ite
  · intro _
    exact (agrees_take length).bind fun _ => .pure _
  · intro _
    exact (agrees_terminated length).bind fun _ => .pure _

theorem agrees_decodeBool (order : ByteOrder) (info : TypeInfo) :
    Agrees (decodeBool order info) (Argument.decodeBool order info) := by
  refine (agrees_nameIf order _).bind fun name => ?_
  exact (agrees_take _).bind fun _ => .pure _

theorem agrees_decodeNames (order : ByteOrder) (info : TypeInfo) :
    Agrees (decodeNames order info) (Argument.decodeNames order info) := by
  apply Agrees.ite
  · intro _
    refine (agrees_word order 2).bind fun nameLength => ?_
    refine (agrees_word order 2).bind fun unitLength => ?_
    refine (agrees_terminated nameLength).bind fun name => ?_
    exact (agrees_terminated unitLength).bind fun _ => .pure _
  · intro _
    exact .pure _

theorem agrees_decodeScaling (order : ByteOrder) (info : TypeInfo) (width : Nat) :
    Agrees (decodeScaling order info width) (Argument.decodeScaling order info width) := by
  apply Agrees.ite
  · intro _
    refine (agrees_word order 4).bind fun factor => ?_
    apply Agrees.ite
    · intro _
      exact .throw _
    · intro _
      exact (agrees_signedWord order _).bind fun _ => .pure _
  · intro _
    exact .pure _

theorem agrees_decodePlainNumber (order : ByteOrder) (info : TypeInfo) (width : Nat) :
    Agrees (decodePlainNumber order info width)
      (Argument.decodePlainNumber order info width) := by
  apply Agrees.ite
  · intro _
    exact (agrees_take width).bind fun _ => .pure _
  · intro _
    apply Agrees.ite
    · intro _
      apply Agrees.ite
      · intro _
        exact (agrees_word order 4).bind fun _ => .pure _
      · intro _
        apply Agrees.ite
        · intro _
          exact (agrees_unsignedWord order 8).map _
        · intro _
          exact .throw _
    · intro _
      apply Agrees.ite
      · intro _
        exact (agrees_signedWord order width).map _
      · intro _
        exact (agrees_unsignedWord order width).map _

theorem agrees_decodeNumber (order : ByteOrder) (info : TypeInfo) :
    Agrees (decodeNumber order info) (Argument.decodeNumber order info) := by
  rw [decodeNumber, Argument.decodeNumber]
  cases info.width? with
  | none => exact .throw _
  | some width =>
      refine (agrees_decodeNames order info).bind fun names => ?_
      refine (agrees_decodeScaling order info width).bind fun scaling => ?_
      exact (agrees_decodePlainNumber order info width).bind fun _ => .pure _

/-- Decoding an argument takes no octet out of range. -/
theorem agrees_decodeArgument (order : ByteOrder) :
    Agrees (decodeArgument order) (Argument.decode order) := by
  refine (agrees_word order 4).bind fun info => ?_
  apply Agrees.ite
  · intro _
    exact .throw _
  · intro _
    apply Agrees.ite
    · intro _
      exact agrees_decodeBlock order _
    · intro _
      apply Agrees.ite
      · intro _
        exact agrees_decodeBool order _
      · intro _
        apply Agrees.ite
        · intro _
          exact agrees_decodeNumber order _
        · intro _
          exact .throw _

theorem decodeMany?_eq (order : ByteOrder) (count : Nat) (octets : Octets) :
    decodeMany? order count octets = some (Argument.decodeMany order count octets) := by
  induction count generalizing octets with
  | zero => rfl
  | succ count ih =>
      have given := agrees_decodeArgument order octets
      rw [decodeMany?, Argument.decodeMany, given]
      cases Argument.decode order octets with
      | error fault => rfl
      | ok taken =>
          change (decodeMany? order count taken.2).bind _ = _
          rw [ih]
          rfl

end Testbed.Trace.Checked
