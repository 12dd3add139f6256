import Testbed.Proofs.Trace.Argument
import Testbed.Proofs.Trace.Composition

/-!
# Attributes of arguments

This file supplies which attributes of an argument the wire format carries.  A name has room
with every kind of value.  A unit has room behind the name of a number and nowhere else: one
bit announces name and unit together, and texts, raw data and truth values are laid out
without a unit.

So names and values are kept, whatever the arguments, and units are kept exactly where they
belong to numbers that have names.
-/

namespace Testbed.Trace

open Text.Utf8 (cutAtNul cutAtNul_of_not_mem)

namespace Argument

/-! ## What can be read -/

/-- Whatever a step gives has the property. -/
def Gives {α : Type} (step : Read α) (property : α → Prop) : Prop :=
  ∀ octets value rest, step octets = .ok (value, rest) → property value

namespace Gives

variable {α β : Type} {property : α → Prop} {value : α}

theorem pure (holds : property value) : Gives (Pure.pure value) property := by
  rintro _ _ _ ⟨⟩
  exact holds

theorem throw (fault : ArgumentFault) : Gives (throw fault) property := by
  rintro _ _ _ ⟨⟩

theorem anything (step : Read α) : Gives step fun _ => True :=
  fun _ _ _ _ => trivial

theorem bind {step : Read α} {next : α → Read β} {later : β → Prop}
    (first : Gives step property) (second : ∀ value, property value → Gives (next value) later) :
    Gives (step >>= next) later := by
  intro octets value rest given
  rw [bind_apply] at given
  split at given
  next early between taken => exact second early (first octets early between taken) _ _ _ given
  next => cases given

/-- What a first step gives is of no account. -/
theorem behind {step : Read α} {next : α → Read β} {later : β → Prop}
    (second : ∀ value, Gives (next value) later) : Gives (step >>= next) later :=
  (anything step).bind fun value _ => second value

theorem map {step : Read α} (transform : α → β) {later : β → Prop}
    (holds : ∀ value, later (transform value)) : Gives (transform <$> step) later := by
  rw [map_eq_pure_bind]
  exact behind fun value => pure (holds value)

theorem ite {condition : Prop} [Decidable condition] {step other : Read α}
    (yes : Gives step property) (no : Gives other property) :
    Gives (if condition then step else other) property := by
  split
  · exact yes
  · exact no

end Gives

end Argument

/-- Whether a value can be read together with a unit: a number, or raw data, as which the wider
numbers are kept. -/
def Value.takesUnit : Value → Bool
  | signed _ | unsigned _ | float _ | raw _ => true
  | bool _ | text _ => false

/-- The text that a value is, if it is one. -/
def Value.text? : Value → Option String
  | text value => some value
  | bool _ | signed _ | unsigned _ | float _ | raw _ => none

namespace Argument

/-- A unit stands behind a name, and with a value that takes one. -/
def UnitPlaced (argument : Argument) : Prop :=
  argument.unit.isSome → argument.name.isSome ∧ argument.value.takesUnit

theorem gives_decodeBlock (order : ByteOrder) (info : TypeInfo) :
    Gives (decodeBlock order info) UnitPlaced :=
  .behind fun _ => .behind fun _ =>
    .ite (.behind fun _ => .pure nofun) (.behind fun _ => .pure nofun)

theorem gives_decodeBool (order : ByteOrder) (info : TypeInfo) :
    Gives (decodeBool order info) UnitPlaced :=
  .behind fun _ => .behind fun _ => .pure nofun

theorem gives_decodeNames (order : ByteOrder) (info : TypeInfo) :
    Gives (decodeNames order info) fun names => names.2.isSome → names.1.isSome :=
  .ite (.behind fun _ => .behind fun _ => .behind fun _ => .behind fun _ => .pure fun _ => rfl)
    (.pure nofun)

theorem gives_decodePlainNumber (order : ByteOrder) (info : TypeInfo) (width : Nat) :
    Gives (decodePlainNumber order info width) fun value => value.takesUnit := by
  refine .ite (.behind fun _ => .pure rfl) (.ite ?_ (.ite ?_ ?_))
  · exact .ite (.behind fun _ => .pure rfl) (.ite (.map _ fun _ => rfl) (.throw _))
  · exact .map _ fun _ => rfl
  · exact .map _ fun _ => rfl

theorem takesUnit_scale (scaling : Option (Float × Float)) {value : Value}
    (takes : value.takesUnit) : (scale scaling value).takesUnit := by
  cases scaling <;> cases value <;> exact takes

theorem gives_decodeNumber (order : ByteOrder) (info : TypeInfo) :
    Gives (decodeNumber order info) UnitPlaced := by
  rw [decodeNumber]
  cases info.width? with
  | none => exact .throw _
  | some width =>
      refine (gives_decodeNames order info).bind ?_
      rintro ⟨name, unit⟩ named
      refine .behind fun scaling => ?_
      refine (gives_decodePlainNumber order info width).bind fun value takes => ?_
      exact .pure fun present => ⟨named present, takesUnit_scale scaling takes⟩

/-- Whatever octets are read, a unit stands where there is room for one. -/
theorem gives_decode (order : ByteOrder) : Gives (decode order) UnitPlaced := by
  refine .behind fun number => ?_
  refine .ite (.throw _) (.ite (gives_decodeBlock order _) (.ite (gives_decodeBool order _) ?_))
  exact .ite (gives_decodeNumber order _) (.throw _)

/-! ## What is carried -/

/-- Whether there is room for the unit of an argument when it is written. -/
def hasUnitRoom (argument : Argument) : Bool :=
  argument.value.isNumber && argument.name.isSome

/-- An argument with the attributes that are written. -/
def carried (argument : Argument) : Argument :=
  { argument with unit := if argument.hasUnitRoom then argument.unit else none }

/-- An argument that can be written: its texts have no NULs, its lengths fit, and a unit that it
has is not empty. -/
structure Writable (argument : Argument) : Prop where
  lengths : argument.LengthsFit
  name : ∀ name ∈ argument.name, '\x00' ∉ name.toList
  unit : ∀ unit ∈ argument.unit, '\x00' ∉ unit.toList ∧ unit ≠ ""
  text : ∀ text ∈ argument.value.text?, '\x00' ∉ text.toList

instance (argument : Argument) : Decidable argument.Writable :=
  decidable_of_iff
    (argument.LengthsFit ∧ (∀ name ∈ argument.name, '\x00' ∉ name.toList) ∧
      (∀ unit ∈ argument.unit, '\x00' ∉ unit.toList ∧ unit ≠ "") ∧
      ∀ text ∈ argument.value.text?, '\x00' ∉ text.toList)
    ⟨fun ⟨lengths, name, unit, text⟩ => ⟨lengths, name, unit, text⟩,
      fun ⟨lengths, name, unit, text⟩ => ⟨lengths, name, unit, text⟩⟩

namespace Writable

variable {argument : Argument}

theorem arriving_name (writable : argument.Writable) :
    argument.name.map cutAtNul = argument.name := by
  cases named : argument.name with
  | none => rfl
  | some name => exact congrArg some (cutAtNul_of_not_mem (writable.name name named))

theorem arriving_unit (writable : argument.Writable) :
    (argument.unit.map cutAtNul).filter (! ·.isEmpty) = argument.unit := by
  cases present : argument.unit with
  | none => rfl
  | some unit =>
      rcases writable.unit unit present with ⟨noNul, notEmpty⟩
      rw [Option.map_some, cutAtNul_of_not_mem noNul, Option.filter_some, if_pos]
      simpa using notEmpty

/-- What can be written arrives with all that is written. -/
theorem arriving_eq (writable : argument.Writable) : argument.arriving = argument.carried := by
  have name := writable.arriving_name
  have unit := writable.arriving_unit
  have text := writable.text
  rcases argument with ⟨_, _, value⟩
  dsimp only at name unit text
  rw [arriving, carried, arrivingUnit, hasUnitRoom, name, unit]
  cases value with
  | text written =>
      dsimp only
      rw [cutAtNul_of_not_mem (text written rfl)]
      rfl
  | bool | raw => rfl
  | signed | unsigned | float => simp [Value.isNumber]

end Writable

theorem carried_eq_self_iff (argument : Argument) :
    argument.carried = argument ↔ (argument.unit.isSome → argument.hasUnitRoom) := by
  rcases argument with ⟨name, unit, value⟩
  rw [carried]
  cases room : hasUnitRoom ⟨name, unit, value⟩ <;> cases unit <;> simp

theorem map_carried_eq_self_iff (arguments : List Argument) :
    arguments.map carried = arguments ↔
      ∀ argument ∈ arguments, argument.unit.isSome → argument.hasUnitRoom := by
  induction arguments with
  | nil => simp
  | cons argument arguments ih =>
      rw [List.map_cons, List.cons.injEq, List.forall_mem_cons, carried_eq_self_iff, ih]

/-- Arguments that can be written are read back, in either byte order and without a fault, each
with its name and its value.  Its unit it keeps if it is a number with a name, and not
otherwise.  So the arguments are the same exactly if only such numbers have units.  The wire
format itself has no room for other units of numbers, and none for those of truth values and
texts: whatever octets are read, no such unit comes of them. -/
theorem attributes_carried (order : ByteOrder) (arguments : List Argument)
    (writable : ∀ argument ∈ arguments, argument.Writable) :
    decodeMany order arguments.length (arguments.flatMap (encode order)) =
        (arguments.map carried, none) ∧
      (arguments.map carried = arguments ↔
        ∀ argument ∈ arguments, argument.unit.isSome → argument.hasUnitRoom) ∧
      ∀ octets argument rest, decode order octets = .ok (argument, rest) →
        argument.unit.isSome → argument.name.isSome ∧ argument.value.takesUnit := by
  refine ⟨?_, map_carried_eq_self_iff arguments, gives_decode order⟩
  have fit : ∀ argument ∈ arguments, argument.LengthsFit :=
    fun argument here => (writable argument here).lengths
  rw [decodeMany_flatMap_encode order (Nat.le_refl _) fit, List.take_length]
  congr 1
  exact List.map_congr_left fun argument here => (writable argument here).arriving_eq

/-- A number with name and unit, a text with a name, and a truth value whose unit is lost. -/
theorem attributes_carried_mixed :
    let arguments : List Argument :=
      [{ name := some "speed", unit := some "km/h", value := .unsigned 7 },
       { name := some "mode", value := .text "on" },
       { unit := some "V", value := .bool true }]
    (∀ argument ∈ arguments, argument.Writable) ∧
      decodeMany .big 3 (arguments.flatMap (encode .big)) =
        ([{ name := some "speed", unit := some "km/h", value := .unsigned 7 },
          { name := some "mode", value := .text "on" },
          { value := .bool true }], none) := by
  intro arguments
  have writable : ∀ argument ∈ arguments, argument.Writable := by decide
  exact ⟨writable, (attributes_carried .big arguments writable).1⟩

/-- Units are lost of a truth value and of a number without a name. -/
theorem units_lost :
    let arguments : List Argument :=
      [{ unit := some "V", value := .bool true }, { unit := some "V", value := .unsigned 7 }]
    (∀ argument ∈ arguments, argument.Writable) ∧
      decodeMany .little 2 (arguments.flatMap (encode .little)) =
        ([{ value := .bool true }, { value := .unsigned 7 }], none) ∧
      decodeMany .little 2 (arguments.flatMap (encode .little)) ≠ (arguments, none) := by
  decide

end Argument

end Testbed.Trace
