import Testbed.Text.Hex
import Testbed.Unicode.CharSet

/-!
# Written ranges

This file supplies the reading of the compact notation in which the tables of
character properties are written: for each range the distance of its start from
the end of the range before, and its length less one, both in hexadecimal.
-/

namespace Testbed.Unicode

/-- The number that hexadecimal digits spell. -/
def hexValue (digits : List Char) : Nat :=
  digits.foldl (fun value digit => value * 16 + (Text.Hex.digitValue? digit).getD 0) 0

/-- The numbers of a text, separated by blanks. -/
def hexNumbers (text : String) : List Nat :=
  (text.splitOn " ").map fun word => hexValue word.toList

/-- The ranges written as distances and lengths from `last` on. -/
def rangesFrom (last : Nat) : List Nat → List (Nat × Nat)
  | distance :: length :: rest =>
      (last + distance, last + distance + length)
        :: rangesFrom (last + distance + length) rest
  | _ => []

/-- The set whose ranges are written over some lines. -/
def readRanges (lines : List String) : CharSet :=
  ⟨(rangesFrom 0 (lines.flatMap hexNumbers)).toArray⟩

end Testbed.Unicode
