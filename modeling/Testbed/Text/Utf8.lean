import Testbed.Octets

/-!
# UTF-8, with substitution of ill-formed input

This file supplies the UTF-8 form of a text and the reading of arbitrary octets
as text.  Reading is a machine that takes one octet at a time.  It never fails:
each maximal sequence of octets that starts a character but cannot be completed,
and each octet that starts none, yields one replacement character.
-/

namespace Testbed.Text.Utf8

/-- The octets of a text. -/
def encode (text : String) : Octets :=
  text.toList.flatMap String.utf8EncodeChar

/-- The character that stands for ill-formed octets. -/
def replacement : Char :=
  '\uFFFD'

/-- A character of several octets whose first octets have been read. -/
structure Pending where
  /-- Continuation octets still to come, at least one. -/
  owed : Nat
  /-- Least admissible next octet. -/
  low : UInt8
  /-- Greatest admissible next octet. -/
  high : UInt8
  /-- Scalar bits read so far. -/
  bits : Nat
  deriving DecidableEq, Repr

/-- The character that a leading octet opens, unless it cannot lead. -/
def lead? (octet : UInt8) : Option Pending :=
  if 0xC2 ≤ octet ∧ octet ≤ 0xDF then
    some ⟨1, 0x80, 0xBF, octet.toNat - 0xC0⟩
  else if octet = 0xE0 then
    some ⟨2, 0xA0, 0xBF, 0⟩
  else if octet = 0xED then
    some ⟨2, 0x80, 0x9F, 0xD⟩
  else if 0xE1 ≤ octet ∧ octet ≤ 0xEF then
    some ⟨2, 0x80, 0xBF, octet.toNat - 0xE0⟩
  else if octet = 0xF0 then
    some ⟨3, 0x90, 0xBF, 0⟩
  else if 0xF1 ≤ octet ∧ octet ≤ 0xF3 then
    some ⟨3, 0x80, 0xBF, octet.toNat - 0xF0⟩
  else if octet = 0xF4 then
    some ⟨3, 0x80, 0x8F, 4⟩
  else
    none

/-- Read an octet between characters. -/
def start (octet : UInt8) : List Char × Option Pending :=
  if octet < 0x80 then
    ([Char.ofNat octet.toNat], none)
  else
    match lead? octet with
    | some pending => ([], some pending)
    | none => ([replacement], none)

/-- Read an octet: the characters it completes and the state after it. -/
def step (state : Option Pending) (octet : UInt8) : List Char × Option Pending :=
  match state with
  | none => start octet
  | some pending =>
      if pending.low ≤ octet ∧ octet ≤ pending.high then
        let bits := pending.bits * 64 + (octet.toNat - 0x80)
        if pending.owed ≤ 1 then
          ([Char.ofNat bits], none)
        else
          ([], some ⟨pending.owed - 1, 0x80, 0xBF, bits⟩)
      else
        let (characters, next) := start octet
        (replacement :: characters, next)

/-- Read octets from a state; an unfinished character at the end is replaced. -/
def decodeFrom : Option Pending → Octets → List Char
  | none, [] => []
  | some _, [] => [replacement]
  | state, octet :: rest =>
      let (characters, next) := step state octet
      characters ++ decodeFrom next rest

/-- The text that octets denote, ill-formed sequences replaced. -/
def decode (octets : Octets) : String :=
  String.ofList (decodeFrom none octets)

/-- Whether octets are well-formed, read by the same machine. -/
def isWellFormedFrom : Option Pending → Octets → Bool
  | none, [] => true
  | some _, [] => false
  | none, octet :: rest =>
      if octet < 0x80 then
        isWellFormedFrom none rest
      else
        match lead? octet with
        | some pending => isWellFormedFrom (some pending) rest
        | none => false
  | some pending, octet :: rest =>
      if pending.low ≤ octet ∧ octet ≤ pending.high then
        if pending.owed ≤ 1 then
          isWellFormedFrom none rest
        else
          isWellFormedFrom
            (some ⟨pending.owed - 1, 0x80, 0xBF,
              pending.bits * 64 + (octet.toNat - 0x80)⟩) rest
      else
        false

/-- The text of octets that are well-formed UTF-8. -/
def decode? (octets : Octets) : Option String :=
  if isWellFormedFrom none octets then some (decode octets) else none

end Testbed.Text.Utf8
