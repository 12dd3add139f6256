import Testbed.Unicode.CharSet

/-!
# Ranges of octets

This file supplies the sequences of octet ranges whose members encode the characters
of a range.  A range of characters is cut where the length of the encoding changes and
where the last octets do not run through all their values.
-/

namespace Testbed.Unicode

/-- A range of octets. -/
abbrev OctetRange :=
  Nat × Nat

/-- The octet of an encoding that holds the six bits of a code point that are left at the
end once the point is divided by `divisor`. -/
def continuation (point divisor : Nat) : Nat :=
  0x80 + point / divisor % 0x40

/-- The octets that encode a code point. -/
def encodePoint (point : Nat) : List Nat :=
  if point < 0x80 then [point]
  else if point < 0x800 then [0xC0 + point / 0x40, continuation point 1]
  else if point < 0x10000 then
    [0xE0 + point / 0x1000, continuation point 0x40, continuation point 1]
  else
    [0xF0 + point / 0x40000, continuation point 0x1000, continuation point 0x40,
      continuation point 1]

/-- Where a range must be cut so that the last octets, which hold the code point modulo
`block`, run through all their values: the end of the first piece. -/
def blockCut? (low high block : Nat) : Option Nat :=
  if low / block = high / block then none
  else if low % block ≠ 0 then some (low / block * block + (block - 1))
  else if high % block ≠ block - 1 then some (high / block * block - 1)
  else none

/-- Where the length of the encoding changes in a range. -/
def sizeCut? (low high : Nat) : Option Nat :=
  [0x7F, 0x7FF, 0xFFFF].find? fun last => low ≤ last ∧ last < high

/-- Where a range must be cut: the end of the first piece. -/
def cut? (low high : Nat) : Option Nat :=
  if low < 0xE000 ∧ 0xD7FF < high then some 0xD7FF
  else
    match sizeCut? low high with
    | some last => some last
    | none =>
        if high < 0x80 then none
        else [0x40, 0x1000, 0x40000].findSome? (blockCut? low high)

theorem lt_nextPoint (point : Nat) : point < nextPoint point := by
  unfold nextPoint
  split <;> omega

/-- The sequences of octet ranges that encode a range of characters. -/
def octetRanges (low high : Nat) : List (List OctetRange) :=
  match cut? low high with
  | none => [(encodePoint low).zip (encodePoint high)]
  | some last =>
      if low ≤ last ∧ last < high then
        octetRanges low last ++ octetRanges (nextPoint last) high
      else
        [(encodePoint low).zip (encodePoint high)]
termination_by high - low
decreasing_by
  · omega
  · have := lt_nextPoint last
    omega

/-- The sequences of octet ranges that encode the members of a set. -/
def CharSet.octetRanges (set : CharSet) : List (List OctetRange) :=
  set.ranges.toList.flatMap fun (low, high) => Unicode.octetRanges low high

end Testbed.Unicode
