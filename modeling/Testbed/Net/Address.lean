import Testbed.Document.Json

/-!
# Internet addresses

This file supplies addresses of both internet protocols, their reading and their
text.  Texts are canonical: an address of the newer protocol is written with its
longest run of at least two zero groups elided, the first of several, and one
that maps an older address ends in dotted form.
-/

namespace Testbed.Net

/-- An address of the older protocol, most significant octet first. -/
structure Ipv4 where
  first : UInt8
  second : UInt8
  third : UInt8
  fourth : UInt8
  deriving DecidableEq, Repr

/-- An address of the newer protocol in eight groups. -/
structure Ipv6 where
  groups : Vector UInt16 8
  deriving DecidableEq, Repr

/-- An address of either protocol. -/
inductive Address where
  | v4 (address : Ipv4)
  | v6 (address : Ipv6)
  deriving DecidableEq, Repr

/-- An address and a port; link scopes are not kept. -/
structure Endpoint where
  address : Address
  port : UInt16
  deriving DecidableEq, Repr

/-! ## Reading -/

/-- A decimal octet: up to three digits without a leading zero. -/
def readOctet? (chars : List Char) : Option (UInt8 × List Char) :=
  let digits := (chars.take 4).takeWhile Char.isDigit
  let value := Document.Json.digitsValue digits
  if digits.isEmpty ∨ 3 < digits.length ∨ 255 < value
      ∨ (1 < digits.length ∧ digits.head? = some '0') then
    none
  else
    some (UInt8.ofNat value, chars.drop digits.length)

/-- A dotted address at the front of a text. -/
def readIpv4? (chars : List Char) : Option (Ipv4 × List Char) := do
  let (first, rest) ← readOctet? chars
  let (second, rest) ← readOctet? (← dot? rest)
  let (third, rest) ← readOctet? (← dot? rest)
  let (fourth, rest) ← readOctet? (← dot? rest)
  pure (⟨first, second, third, fourth⟩, rest)
where
  dot? : List Char → Option (List Char)
    | '.' :: rest => some rest
    | _ => none

/-- A hexadecimal group of one to four digits. -/
def readGroup? (chars : List Char) : Option (Nat × List Char) :=
  let digits := (chars.take 4).takeWhile fun char => (Text.Hex.digitValue? char).isSome
  if digits.isEmpty then
    none
  else
    some (digits.foldl (fun value digit => value * 16 + (Text.Hex.digitValue? digit).getD 0) 0,
      chars.drop digits.length)

/-- Skip the colon in front of every group but the first. -/
def separated? (first : Bool) (chars : List Char) : Option (List Char) :=
  if first then
    some chars
  else
    match chars with
    | ':' :: rest => some rest
    | _ => none

/-- Up to `limit` groups, the last two of which may be written in dotted form:
the groups, whether they end in that form, and the rest. -/
def readGroups (first : Bool) : Nat → List Char → List Nat × Bool × List Char
  | 0, chars => ([], false, chars)
  | limit + 1, chars =>
      match (separated? first chars).bind readIpv4? with
      | some (address, rest) =>
          if 1 ≤ limit then
            ([address.first.toNat * 256 + address.second.toNat,
              address.third.toNat * 256 + address.fourth.toNat], true, rest)
          else
            ([], false, chars)
      | none =>
          match (separated? first chars).bind readGroup? with
          | none => ([], false, chars)
          | some (group, rest) =>
              let (groups, dotted, rest) := readGroups false limit rest
              (group :: groups, dotted, rest)

/-- The address of eight groups. -/
def ofGroups? (groups : List Nat) : Option Ipv6 :=
  if sized : (groups.map UInt16.ofNat).toArray.size = 8 then
    some ⟨⟨(groups.map UInt16.ofNat).toArray, sized⟩⟩
  else
    none

/-- An address in groups at the front of a text. -/
def readIpv6? (chars : List Char) : Option (Ipv6 × List Char) :=
  let (head, dotted, rest) := readGroups true 8 chars
  if head.length = 8 then
    (ofGroups? head).map fun address => (address, rest)
  else if dotted then
    none
  else
    match rest with
    | ':' :: ':' :: rest =>
        let (tail, _, rest) := readGroups true (7 - head.length) rest
        let zeros := List.replicate (8 - head.length - tail.length) 0
        (ofGroups? (head ++ zeros ++ tail)).map fun address => (address, rest)
    | _ => none

/-- Require a reading to use up its text. -/
def whole? {α : Type} (read : List Char → Option (α × List Char)) (text : String) :
    Option α :=
  match read text.toList with
  | some (value, []) => some value
  | _ => none

namespace Ipv4

/-- Read an address in dotted form. -/
def parse? (text : String) : Option Ipv4 :=
  whole? readIpv4? text

/-- The dotted form of an address. -/
def render (address : Ipv4) : String :=
  ".".intercalate
    ([address.first, address.second, address.third, address.fourth].map fun octet =>
      toString octet.toNat)

/-- Whether packets to the address reach a group. -/
def isMulticast (address : Ipv4) : Bool :=
  224 ≤ address.first && address.first ≤ 239

/-- The address that stands for every local one. -/
def unspecified : Ipv4 :=
  ⟨0, 0, 0, 0⟩

end Ipv4

namespace Ipv6

/-- Read an address written as groups. -/
def parse? (text : String) : Option Ipv6 :=
  whole? readIpv6? text

/-- The longest run of zeros from `index` on that is longer than the best so
far: its start and length. -/
def longestZeros (index start length bestStart bestLength : Nat) :
    List UInt16 → Nat × Nat
  | [] => (bestStart, bestLength)
  | group :: rest =>
      if group = 0 then
        let start := if length = 0 then index else start
        if bestLength < length + 1 then
          longestZeros (index + 1) start (length + 1) start (length + 1) rest
        else
          longestZeros (index + 1) start (length + 1) bestStart bestLength rest
      else
        longestZeros (index + 1) 0 0 bestStart bestLength rest

/-- A group without leading zeros. -/
def groupText (group : UInt16) : String :=
  String.ofList (Nat.toDigits 16 group.toNat)

/-- Groups with colons between them. -/
def groupsText (groups : List UInt16) : String :=
  ":".intercalate (groups.map groupText)

/-- The address of the older protocol that is mapped, if one is. -/
def mapped? (address : Ipv6) : Option Ipv4 :=
  match address.groups.toList with
  | [0, 0, 0, 0, 0, 0xFFFF, high, low] =>
      some ⟨UInt8.ofNat (high.toNat / 256), UInt8.ofNat high.toNat,
        UInt8.ofNat (low.toNat / 256), UInt8.ofNat low.toNat⟩
  | _ => none

/-- The canonical text of an address. -/
def render (address : Ipv6) : String :=
  match address.mapped? with
  | some older => "::ffff:" ++ older.render
  | none =>
      let groups := address.groups.toList
      let (start, length) := longestZeros 0 0 0 0 0 groups
      if 1 < length then
        groupsText (groups.take start) ++ "::" ++ groupsText (groups.drop (start + length))
      else
        groupsText groups

end Ipv6

namespace Address

/-- Read an address of either protocol. -/
def parse? (text : String) : Option Address :=
  match Ipv4.parse? text with
  | some address => some (.v4 address)
  | none => (Ipv6.parse? text).map .v6

/-- The canonical text of an address. -/
def render : Address → String
  | v4 address => address.render
  | v6 address => address.render

/-- Whether the address stands for every local one. -/
def isUnspecified : Address → Bool
  | v4 address => address = .unspecified
  | v6 address => address.groups.toList.all (· = 0)

/-- Whether an address belongs to the newer protocol. -/
def isV6 : Address → Bool
  | v4 _ => false
  | v6 _ => true

end Address

namespace Endpoint

/-- A port after its colon. -/
def readPort? : List Char → Option UInt16
  | ':' :: digits =>
      if digits.isEmpty ∨ !digits.all Char.isDigit then
        none
      else
        let value := Document.Json.digitsValue digits
        if value < 65536 then some (UInt16.ofNat value) else none
  | _ => none

/-- Skip a numeric scope. -/
def skipScope? : List Char → Option (List Char)
  | '%' :: rest =>
      let digits := rest.takeWhile Char.isDigit
      if digits.isEmpty ∨ 0x100000000 ≤ Document.Json.digitsValue digits then none
      else some (rest.dropWhile Char.isDigit)
  | rest => some rest

/-- An address and a port; one of the newer protocol stands in brackets. -/
def parse? (text : String) : Option Endpoint :=
  match text.toList with
  | '[' :: rest => do
      let (address, rest) ← readIpv6? rest
      match ← skipScope? rest with
      | ']' :: rest => pure ⟨.v6 address, ← readPort? rest⟩
      | _ => none
  | chars => do
      let (address, rest) ← readIpv4? chars
      pure ⟨.v4 address, ← readPort? rest⟩

/-- The text of an address and a port. -/
def render (endpoint : Endpoint) : String :=
  match endpoint.address with
  | .v4 address => address.render ++ ":" ++ toString endpoint.port.toNat
  | .v6 address => "[" ++ address.render ++ "]:" ++ toString endpoint.port.toNat

end Endpoint

end Testbed.Net
