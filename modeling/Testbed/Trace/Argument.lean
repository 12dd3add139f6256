import Testbed.Decimal.Shortest
import Testbed.Text.Hex
import Testbed.Text.Utf8

/-!
# Arguments of verbose messages

This file supplies the typed arguments that a verbose payload carries, their
wire format in both byte orders, and their text.

Decoding stops at the first argument that is truncated or of an unsupported
type, and keeps what was decoded before it.  Encoding chooses the narrower of
the 32-bit and 64-bit integer types that holds the value.
-/

namespace Testbed.Trace

/-- The value of an argument.  A floating-point value is kept as its bits. -/
inductive Value where
  | bool (value : Bool)
  | signed (value : Int64)
  | unsigned (value : UInt64)
  | float (bits : UInt64)
  | text (value : String)
  /-- Raw data; also 128-bit integers and half-precision numbers. -/
  | raw (data : Octets)
  deriving DecidableEq, Repr

/-- The text of a value. -/
def Value.render : Value → String
  | bool value => if value then "true" else "false"
  | signed value => toString value.toInt
  | unsigned value => toString value.toNat
  | float bits => Decimal.Shortest.plain bits
  | text value => value
  | raw data => Text.Hex.encode data

/-- One argument: a value, and perhaps a name and a unit. -/
structure Argument where
  name : Option String := none
  unit : Option String := none
  value : Value
  deriving DecidableEq, Repr

/-! ## Type information -/

/-- The word that announces the type of an argument. -/
structure TypeInfo where
  word : UInt32
  deriving DecidableEq, Repr

namespace TypeInfo

/-- The value is a truth value. -/
def boolean : UInt32 := 0x10

/-- The value is a whole number with a sign. -/
def signed : UInt32 := 0x20

/-- The value is a whole number without a sign. -/
def unsigned : UInt32 := 0x40

/-- The value is a floating-point number. -/
def floating : UInt32 := 0x80

/-- The value is an array. -/
def array : UInt32 := 0x100

/-- The value is a text. -/
def string : UInt32 := 0x200

/-- The value is a string of octets. -/
def raw : UInt32 := 0x400

/-- The argument has a name. -/
def named : UInt32 := 0x800

/-- The number is scaled. -/
def fixedPoint : UInt32 := 0x1000

/-- The argument is information on the trace itself. -/
def traceInfo : UInt32 := 0x2000

/-- The value is a structure. -/
def structured : UInt32 := 0x4000

/-- Whether any bit of `mask` is set. -/
def has (info : TypeInfo) (mask : UInt32) : Bool :=
  info.word &&& mask != 0

/-- Octets of a value, from the length code in the lowest four bits. -/
def width? (info : TypeInfo) : Option Nat :=
  let code := info.word &&& 0x0F
  if code = 1 then some 1
  else if code = 2 then some 2
  else if code = 3 then some 4
  else if code = 4 then some 8
  else if code = 5 then some 16
  else none

end TypeInfo

/-- Why an argument could not be decoded. -/
inductive ArgumentFault where
  | truncated (needed remaining : Nat)
  | unsupported (info : UInt32)
  | width (octets : Nat)
  deriving DecidableEq, Repr

/-- The fault in words. -/
def ArgumentFault.message : ArgumentFault → String
  | truncated needed remaining =>
      "argument truncated: needed " ++ toString needed ++ " bytes, "
        ++ toString remaining ++ " left"
  | unsupported info =>
      "unsupported type info 0x" ++ String.ofList (Text.Hex.fixed 8 info.toNat)
  | width octets => "invalid integer width " ++ toString octets

namespace Argument

/-! ## Reading words -/

/-- A step of decoding: what was read and the octets after it. -/
abbrev Read (α : Type) :=
  StateT Octets (Except ArgumentFault) α

/-- Take exactly `count` octets. -/
def take (count : Nat) : Read Octets := fun octets =>
  match splitExactly? count octets with
  | some (taken, rest) => .ok (taken, rest)
  | none => .error (.truncated count octets.length)

/-- A word of `width` octets, as a number. -/
def word (order : ByteOrder) (width : Nat) : Read Nat :=
  Octets.toNat order <$> take width

/-- An unsigned integer of 1, 2, 4 or 8 octets. -/
def unsignedWord (order : ByteOrder) (width : Nat) : Read UInt64 :=
  if width = 1 ∨ width = 2 ∨ width = 4 ∨ width = 8 then
    UInt64.ofNat <$> word order width
  else
    throw (.width width)

/-- A two's complement integer of 1, 2, 4 or 8 octets: the sign bit of the
narrow word is carried to the top by a shift and spread on the way back. -/
def signedWord (order : ByteOrder) (width : Nat) : Read Int64 := do
  let value ← unsignedWord order width
  let shift := 64 - 8 * width
  pure ((value <<< UInt64.ofNat shift).toInt64 >>> Int64.ofNat shift)

/-- A text of `length` octets, cut at its first NUL. -/
def terminated (length : Nat) : Read String := do
  let octets ← take length
  pure (Text.Utf8.decode (octets.takeWhile (· ≠ 0)))

/-- A name behind its length, if names are announced. -/
def nameIf (order : ByteOrder) (announced : Bool) : Read (Option String) := do
  if announced then
    let length ← word order 2
    some <$> terminated length
  else
    pure none

/-! ## Decoding -/

/-- A single-precision number widened, by its bits. -/
def widen (bits : UInt32) : Float :=
  (Float32.ofBits bits).toFloat

/-- Text, raw data or trace information. -/
def decodeBlock (order : ByteOrder) (info : TypeInfo) : Read Argument := do
  let length ← word order 2
  let name ← nameIf order (info.has TypeInfo.named && !info.has TypeInfo.traceInfo)
  if info.has TypeInfo.raw then
    let data ← take length
    pure { name, value := .raw data }
  else
    let text ← terminated length
    pure { name, value := .text text }

/-- A truth value: any set bit counts as true. -/
def decodeBool (order : ByteOrder) (info : TypeInfo) : Read Argument := do
  let name ← nameIf order (info.has TypeInfo.named)
  let octets ← take (info.width?.getD 1)
  pure { name, value := .bool (octets.any (· ≠ 0)) }

/-- Name and unit, whose lengths come first; an empty unit is none. -/
def decodeNames (order : ByteOrder) (info : TypeInfo) :
    Read (Option String × Option String) := do
  if info.has TypeInfo.named then
    let nameLength ← word order 2
    let unitLength ← word order 2
    let name ← terminated nameLength
    let unit ← terminated unitLength
    pure (some name, if unit.isEmpty then none else some unit)
  else
    pure (none, none)

/-- Factor and offset of a fixed-point integer. -/
def decodeScaling (order : ByteOrder) (info : TypeInfo) (width : Nat) :
    Read (Option (Float × Float)) := do
  if info.has TypeInfo.fixedPoint && !info.has TypeInfo.floating then
    let factor ← word order 4
    if width = 16 then
      throw (.unsupported info.word)
    else
      let offset ← signedWord order (if width = 8 then 8 else 4)
      pure (some (widen (UInt32.ofNat factor), Float.ofInt offset.toInt))
  else
    pure none

/-- The value of a number, before scaling. -/
def decodePlainNumber (order : ByteOrder) (info : TypeInfo) (width : Nat) :
    Read Value := do
  if width = 16 || (info.has TypeInfo.floating && width = 2) then
    let octets ← take width
    pure (.raw (octets.mostSignificantFirst order))
  else if info.has TypeInfo.floating then
    if width = 4 then
      let bits ← word order 4
      pure (.float (widen (UInt32.ofNat bits)).toBits)
    else if width = 8 then
      .float <$> unsignedWord order 8
    else
      throw (.unsupported info.word)
  else if info.has TypeInfo.signed then
    .signed <$> signedWord order width
  else
    .unsigned <$> unsignedWord order width

/-- Apply the factor and offset of a fixed-point integer. -/
def scale : Option (Float × Float) → Value → Value
  | some (factor, offset), .signed value =>
      .float (Float.ofInt value.toInt * factor + offset).toBits
  | some (factor, offset), .unsigned value =>
      .float (Float.ofNat value.toNat * factor + offset).toBits
  | _, value => value

/-- An integer or floating-point number. -/
def decodeNumber (order : ByteOrder) (info : TypeInfo) : Read Argument := do
  match info.width? with
  | none => throw (.unsupported info.word)
  | some width =>
      let (name, unit) ← decodeNames order info
      let scaling ← decodeScaling order info width
      let value ← decodePlainNumber order info width
      pure { name, unit, value := scale scaling value }

/-- Decode one argument. -/
def decode (order : ByteOrder) : Read Argument := do
  let info : TypeInfo := ⟨UInt32.ofNat (← word order 4)⟩
  if info.has (TypeInfo.array ||| TypeInfo.structured) then
    throw (.unsupported info.word)
  else if info.has (TypeInfo.string ||| TypeInfo.raw ||| TypeInfo.traceInfo) then
    decodeBlock order info
  else if info.has TypeInfo.boolean then
    decodeBool order info
  else if info.has (TypeInfo.signed ||| TypeInfo.unsigned ||| TypeInfo.floating) then
    decodeNumber order info
  else
    throw (.unsupported info.word)

/-- Decode up to `count` arguments: those before the first fault, and the
fault. -/
def decodeMany (order : ByteOrder) : Nat → Octets → List Argument × Option ArgumentFault
  | 0, _ => ([], none)
  | count + 1, octets =>
      match decode order octets with
      | .error fault => ([], some fault)
      | .ok (argument, rest) =>
          let (arguments, fault) := decodeMany order count rest
          (argument :: arguments, fault)

/-! ## Encoding -/

/-- A text with its terminator. -/
def terminate (text : String) : Octets :=
  Text.Utf8.encode text ++ [0]

/-- A terminated text behind its length. -/
def encodeName (order : ByteOrder) (name : String) : Octets :=
  let octets := terminate name
  Octets.ofNat order 2 octets.length ++ octets

/-- Name and unit of a number behind their lengths. -/
def encodeNames (order : ByteOrder) (name unit : String) : Octets :=
  let nameOctets := terminate name
  let unitOctets := terminate unit
  Octets.ofNat order 2 nameOctets.length ++ Octets.ofNat order 2 unitOctets.length
    ++ nameOctets ++ unitOctets

/-- The octets of an argument. -/
def encode (order : ByteOrder) (argument : Argument) : Octets :=
  let vari : UInt32 := if argument.name.isSome then TypeInfo.named else 0
  let info (bits : UInt32) : Octets := Octets.ofNat order 4 (bits ||| vari).toNat
  let name :=
    match argument.name with
    | some name => encodeName order name
    | none => []
  let names :=
    match argument.name with
    | some name => encodeNames order name (argument.unit.getD "")
    | none => []
  match argument.value with
  | .text text =>
      let octets := terminate text
      info TypeInfo.string ++ Octets.ofNat order 2 octets.length ++ name ++ octets
  | .raw data =>
      info TypeInfo.raw ++ Octets.ofNat order 2 data.length ++ name ++ data
  | .bool value =>
      info (TypeInfo.boolean ||| 1) ++ name ++ [if value then 1 else 0]
  | .signed value =>
      if -0x80000000 ≤ value.toInt ∧ value.toInt < 0x80000000 then
        info (TypeInfo.signed ||| 3) ++ names
          ++ Octets.ofNat order 4 value.toUInt64.toNat
      else
        info (TypeInfo.signed ||| 4) ++ names
          ++ Octets.ofNat order 8 value.toUInt64.toNat
  | .unsigned value =>
      if value.toNat < 0x100000000 then
        info (TypeInfo.unsigned ||| 3) ++ names ++ Octets.ofNat order 4 value.toNat
      else
        info (TypeInfo.unsigned ||| 4) ++ names ++ Octets.ofNat order 8 value.toNat
  | .float bits =>
      info (TypeInfo.floating ||| 4) ++ names ++ Octets.ofNat order 8 bits.toNat

/-- Arguments as log viewers show them. -/
def renderMany (arguments : List Argument) : String :=
  " ".intercalate (arguments.map fun argument => argument.value.render)

end Argument

end Testbed.Trace
