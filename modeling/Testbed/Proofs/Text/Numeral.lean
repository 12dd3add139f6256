import Mathlib.Data.List.Basic
import Testbed.Document.Json

/-!
# Numerals

This file supplies what readers of numbers meet in a numeral as it is written: digits of its base
only, as few as there can be, whose value is the number.
-/

namespace Testbed.Text.Numeral

/-! ## Where a numeral ends -/

/-- What stands behind a numeral begins with none of the characters that could go on with it. -/
def Stops (among : Char → Bool) (rest : List Char) : Prop :=
  ∀ char ∈ rest.head?, among char = false

theorem takeWhile_take_append {among : Char → Bool} {limit : Nat} {front rest : List Char}
    (all : ∀ char ∈ front, among char = true) (short : front.length ≤ limit)
    (stops : Stops among rest) : ((front ++ rest).take limit).takeWhile among = front := by
  rw [List.take_append, List.take_of_length_le short, List.takeWhile_append_of_pos all]
  cases rest with
  | nil => simp
  | cons char rest =>
      have other : among char = false := stops char rfl
      cases limit - front.length with
      | zero => simp
      | succ more => simp [other]

/-! ## Digits -/

variable {base : Nat}

theorem exists_of_mem_toDigits (large : 1 < base) {number : Nat} {char : Char}
    (inside : char ∈ Nat.toDigits base number) : ∃ digit < base, char = digit.digitChar := by
  induction number using Nat.base_induction base large with
  | single number small =>
      rw [Nat.toDigits_of_lt_base small, List.mem_singleton] at inside
      exact ⟨number, small, inside⟩
  | digit number last small positive ih =>
      rw [← Nat.toDigits_append_toDigits large positive small, List.mem_append] at inside
      rcases inside with front | back
      · exact ih front
      · rw [Nat.toDigits_of_lt_base small, List.mem_singleton] at back
        exact ⟨last, small, back⟩

/-- The digits of a number have its value, whichever function it is that values each of them. -/
theorem foldl_toDigits (large : 1 < base) {value : Char → Nat}
    (valued : ∀ digit < base, value digit.digitChar = digit) (number : Nat) :
    (Nat.toDigits base number).foldl (fun total char => total * base + value char) 0 = number := by
  induction number using Nat.base_induction base large with
  | single number small =>
      rw [Nat.toDigits_of_lt_base small, List.foldl_cons, List.foldl_nil, valued number small]
      simp
  | digit number last small positive ih =>
      rw [← Nat.toDigits_append_toDigits large positive small, List.foldl_append, ih,
        Nat.toDigits_of_lt_base small, List.foldl_cons, List.foldl_nil, valued last small,
        Nat.mul_comm]

theorem head?_toDigits_ne_zero {number : Nat} (positive : 0 < number) :
    (Nat.toDigits 10 number).head? ≠ some '0' := by
  induction number using Nat.base_induction 10 (by decide) with
  | single number small =>
      rw [Nat.toDigits_of_lt_base small, List.head?_singleton]
      revert positive
      revert number
      decide
  | digit number last small front ih =>
      rw [← Nat.toDigits_append_toDigits (by decide) front small,
        List.head?_append_of_ne_nil _ Nat.toDigits_ne_nil]
      exact ih front

/-- A numeral of more than one digit does not begin with a zero. -/
theorem head?_toDigits_of_length {number : Nat} (long : 1 < (Nat.toDigits 10 number).length) :
    (Nat.toDigits 10 number).head? ≠ some '0' := by
  apply head?_toDigits_ne_zero
  apply Nat.pos_of_ne_zero
  rintro rfl
  exact absurd long (by decide)

theorem digitsValue_toDigits (number : Nat) :
    Document.Json.digitsValue (Nat.toDigits 10 number) = number := by
  have valued : ∀ digit < 10, digit.digitChar.toNat - 48 = digit := by decide
  exact foldl_toDigits (by decide) valued number

end Testbed.Text.Numeral
