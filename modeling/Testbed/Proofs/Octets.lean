import Testbed.Octets

/-!
# Octets by position

This file supplies the accesses to octets by their position, which fail for a position
out of range, and what they give within it.  A program that makes such accesses stops
dead where one fails; the programs of the project split octets off exactly instead,
and these accesses are what that is compared with.
-/

namespace Testbed

theorem splitExactly?_of_le {α : Type} {count : Nat} {list : List α}
    (room : count ≤ list.length) :
    splitExactly? count list = some (list.take count, list.drop count) :=
  splitExactly?_eq_some_iff.mpr
    ⟨(List.take_append_drop count list).symm, List.length_take_of_le room⟩

theorem splitExactly?_drop {α : Type} {passed count : Nat} {list : List α}
    (room : passed + count ≤ list.length) :
    splitExactly? count (list.drop passed) =
      some ((list.drop passed).take count, list.drop (passed + count)) := by
  rw [splitExactly?_of_le (by rw [List.length_drop]; omega), List.drop_drop]

namespace Octets

/-- The octets from `first` up to `last`, which must lie within and in order. -/
def slice? (octets : Octets) (first last : Nat) : Option Octets :=
  if first ≤ last ∧ last ≤ octets.length then
    some ((octets.drop first).take (last - first))
  else
    none

/-- The octets behind the first `count`, which must be there. -/
def advance? (octets : Octets) (count : Nat) : Option Octets :=
  if count ≤ octets.length then some (octets.drop count) else none

/-- The first `count` octets, which must be there, and those behind them. -/
def splitAt? (octets : Octets) (count : Nat) : Option (Octets × Octets) :=
  if count ≤ octets.length then some (octets.take count, octets.drop count) else none

/-- The octets at some positions, each of which must be there. -/
def pick? (octets : Octets) (positions : List Nat) : Option Octets :=
  positions.mapM fun position => octets[position]?

/-- The octets as those of a place for `count` of them, which they must fill. -/
def fill? (octets : Octets) (count : Nat) : Option Octets :=
  if octets.length = count then some octets else none

variable {octets : Octets}

theorem slice?_of_le {first count : Nat} (room : first + count ≤ octets.length) :
    slice? octets first (first + count) = some ((octets.drop first).take count) := by
  rw [slice?, if_pos ⟨Nat.le_add_right .., room⟩, Nat.add_sub_cancel_left]

theorem slice?_length {first : Nat} (room : first ≤ octets.length) :
    slice? octets first octets.length = some (octets.drop first) := by
  rw [slice?, if_pos ⟨room, Nat.le_refl _⟩, List.take_of_length_le (by simp)]

theorem advance?_of_le {count : Nat} (room : count ≤ octets.length) :
    advance? octets count = some (octets.drop count) :=
  if_pos room

theorem splitAt?_of_le {count : Nat} (room : count ≤ octets.length) :
    splitAt? octets count = some (octets.take count, octets.drop count) :=
  if_pos room

/-- Octets picked one after the other are a slice. -/
theorem pick?_range' {first count : Nat} (room : first + count ≤ octets.length) :
    pick? octets (List.range' first count) = some ((octets.drop first).take count) := by
  induction count generalizing first with
  | zero => rfl
  | succ count ih =>
      have here : first < octets.length := by omega
      have further := ih (by omega : first + 1 + count ≤ octets.length)
      rw [pick?] at further
      rw [pick?, List.range'_succ, List.mapM_cons, List.getElem?_eq_getElem here,
        List.drop_eq_getElem_cons here, List.take_succ_cons, further]
      rfl

end Octets

end Testbed
