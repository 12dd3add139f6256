/-!
# Sets of characters

This file supplies sets of code points as sorted ranges without overlap, and the
operations by which patterns combine them.

The code points of surrogates are no characters: the gap between two ranges runs
from the character after the first to the character before the second.
-/

namespace Testbed.Unicode

/-- The greatest code point. -/
def maxCodePoint : Nat :=
  0x10FFFF

/-- The character after a code point. -/
def nextPoint (point : Nat) : Nat :=
  if point = 0xD7FF then 0xE000 else point + 1

/-- The character before a code point. -/
def previousPoint (point : Nat) : Nat :=
  if point = 0xE000 then 0xD7FF else point - 1

/-- A set of code points: sorted inclusive ranges that do not touch. -/
structure CharSet where
  ranges : Array (Nat × Nat)
  deriving Repr, DecidableEq, Inhabited

namespace CharSet

/-- Join a range to those already collected, the last of which comes first. -/
def joinRange (collected : List (Nat × Nat)) (range : Nat × Nat) : List (Nat × Nat) :=
  match collected with
  | [] => [range]
  | (low, high) :: rest =>
      if range.1 ≤ high + 1 then (low, max high range.2) :: rest
      else range :: (low, high) :: rest

/-- The set of the members of some ranges, in any order. -/
def ofRanges (ranges : List (Nat × Nat)) : CharSet :=
  let sorted := ranges.mergeSort fun first second => first.1 ≤ second.1
  ⟨(sorted.foldl joinRange []).reverse.toArray⟩

/-- The set without members. -/
def empty : CharSet :=
  ⟨#[]⟩

/-- The set of all code points. -/
def all : CharSet :=
  ⟨#[(0, maxCodePoint)]⟩

/-- The set of one code point. -/
def singleton (point : Nat) : CharSet :=
  ⟨#[(point, point)]⟩

/-- The set of some code points. -/
def ofPoints (points : List Nat) : CharSet :=
  ofRanges (points.map fun point => (point, point))

/-- Search the ranges from `low` up to but not including `high`. -/
def search (set : CharSet) (point : Nat) : Nat → Nat → Nat → Bool
  | 0, _, _ => false
  | steps + 1, low, high =>
      if low < high then
        let middle := (low + high) / 2
        match set.ranges[middle]? with
        | none => false
        | some (first, last) =>
            if point < first then search set point steps low middle
            else if last < point then search set point steps (middle + 1) high
            else true
      else
        false

/-- Whether a code point is a member. -/
def has (set : CharSet) (point : Nat) : Bool :=
  set.search point 32 0 set.ranges.size

/-- Whether every member is an ASCII character. -/
def isAscii (set : CharSet) : Bool :=
  set.ranges.all fun range => range.2 < 0x80

/-- The only member of a set that has just one. -/
def single? (set : CharSet) : Option Nat :=
  match set.ranges.toList with
  | [(low, high)] => if low = high then some low else none
  | _ => none

/-! ## Combination -/

/-- The members of some sets. -/
def unionAll (sets : List CharSet) : CharSet :=
  ofRanges (sets.flatMap fun set => set.ranges.toList)

/-- The members of either set. -/
def union (first second : CharSet) : CharSet :=
  unionAll [first, second]

/-- The range between two bounds, whichever is the lower. -/
def between (low high : Nat) : Nat × Nat :=
  (min low high, max low high)

/-- The gaps of sorted ranges after a range that ends at `last`. -/
def gapsAfter (last : Nat) : List (Nat × Nat) → List (Nat × Nat)
  | [] => if last < maxCodePoint then [(nextPoint last, maxCodePoint)] else []
  | (low, high) :: rest =>
      between (nextPoint last) (previousPoint low) :: gapsAfter high rest

/-- The gaps of sorted ranges. -/
def gaps : List (Nat × Nat) → List (Nat × Nat)
  | [] => [(0, maxCodePoint)]
  | (low, high) :: rest =>
      if 0 < low then (0, previousPoint low) :: gapsAfter high rest
      else gapsAfter high rest

/-- The code points that are not members. -/
def complement (set : CharSet) : CharSet :=
  ofRanges (gaps set.ranges.toList)

/-- What is common to two lists of sorted ranges. -/
def commonRanges (first second : List (Nat × Nat)) : List (Nat × Nat) :=
  match first, second with
  | (low, high) :: first, (low', high') :: second =>
      let rest :=
        if high < high' then commonRanges first ((low', high') :: second)
        else commonRanges ((low, high) :: first) second
      if max low low' ≤ min high high' then (max low low', min high high') :: rest
      else rest
  | _, _ => []
termination_by first.length + second.length

/-- The members of both sets. -/
def inter (first second : CharSet) : CharSet :=
  ofRanges (commonRanges first.ranges.toList second.ranges.toList)

/-- What is left of the first of two lists of sorted ranges without the second. -/
def remainingRanges (first second : List (Nat × Nat)) : List (Nat × Nat) :=
  match first, second with
  | (low, high) :: first, (low', high') :: second =>
      if high' < low then
        remainingRanges ((low, high) :: first) second
      else if high < low' then
        (low, high) :: remainingRanges first ((low', high') :: second)
      else
        (if low < low' then [(low, previousPoint low')] else [])
          ++ (if high' < high then
                remainingRanges ((nextPoint high', high) :: first) second
              else remainingRanges first ((low', high') :: second))
  | first, [] => first
  | [], _ => []
termination_by first.length + second.length

/-- The members of the first set that are not in the second. -/
def diff (first second : CharSet) : CharSet :=
  ofRanges (remainingRanges first.ranges.toList second.ranges.toList)

/-- The members of exactly one set. -/
def symmDiff (first second : CharSet) : CharSet :=
  (first.union second).diff (first.inter second)

end CharSet

end Testbed.Unicode
