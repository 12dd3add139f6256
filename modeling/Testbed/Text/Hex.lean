import Testbed.Octets

/-!
# Hexadecimal text

This file supplies lower-case hexadecimal spellings: two digits for each octet,
and numbers padded with zeros to a width.  Reading accepts digits of either case.
-/

namespace Testbed.Text.Hex

/-- The lower-case digit of a number below sixteen. -/
def digit (value : Nat) : Char :=
  if value < 10 then Char.ofNat (48 + value) else Char.ofNat (87 + value)

/-- The value of a digit of either case. -/
def digitValue? (char : Char) : Option Nat :=
  if '0' ≤ char ∧ char ≤ '9' then some (char.toNat - 48)
  else if 'a' ≤ char ∧ char ≤ 'f' then some (char.toNat - 87)
  else if 'A' ≤ char ∧ char ≤ 'F' then some (char.toNat - 55)
  else none

/-- Two digits for each octet. -/
def encode (octets : Octets) : String :=
  String.ofList (octets.flatMap fun octet =>
    [digit (octet.toNat / 16), digit (octet.toNat % 16)])

/-- The octets that pairs of digits spell. -/
def decodeChars? : List Char → Option Octets
  | [] => some []
  | [_] => none
  | high :: low :: rest => do
      let high ← digitValue? high
      let low ← digitValue? low
      let octets ← decodeChars? rest
      pure (UInt8.ofNat (16 * high + low) :: octets)

/-- The octets that a text of digit pairs spells. -/
def decode? (text : String) : Option Octets :=
  decodeChars? text.toList

/-- The `width` low-order digits of a number, most significant first. -/
def fixed : Nat → Nat → List Char
  | 0, _ => []
  | width + 1, value => fixed width (value / 16) ++ [digit (value % 16)]

end Testbed.Text.Hex
