import Mathlib.Data.List.TakeWhile
import Testbed.Text.Blank
import Testbed.Text.Pieces

/-!
# Pieces of a text and the blanks around them

This file supplies what a text cut at a character has to do with the blanks in it: the pieces
are those of the list library, and blanks around a text make no difference once they are
removed from its ends.
-/

namespace Testbed.Text

theorem pieces_eq_splitOn (separator : Char) (chars : List Char) :
    pieces separator chars = chars.splitOn separator := by
  induction chars with
  | nil => rfl
  | cons char rest ih =>
      rw [pieces, List.splitOn, List.splitOnP_cons_eq_if_modifyHead, ← List.splitOn, ih]
      by_cases cut : char = separator
      · rw [if_pos cut, if_pos (beq_iff_eq.mpr cut)]
      · rw [if_neg cut, if_neg (cut ∘ beq_iff_eq.mp)]
        cases split : rest.splitOn separator with
        | nil => exact absurd (ih.trans split) (pieces_ne_nil separator rest)
        | cons first others => rfl

/-! ## Blanks -/

/-- Whether nothing but blanks stands in a text. -/
def IsBlank (text : List Char) : Prop :=
  ∀ char ∈ text, isBlank char = true

instance (text : List Char) : Decidable (IsBlank text) :=
  List.decidableBAll (isBlank · = true) text

theorem isBlank_append_iff {front back : List Char} :
    IsBlank (front ++ back) ↔ IsBlank front ∧ IsBlank back :=
  List.forall_mem_append

theorem trimEndChars_append_of_isBlank {text back : List Char} (blank : IsBlank back) :
    trimEndChars (text ++ back) = trimEndChars text := by
  rw [trimEndChars, List.reverse_append, List.dropWhile_append_of_pos, trimEndChars]
  intro char mem
  exact blank char (List.mem_reverse.mp mem)

/-- Blanks around a text are removed with those at its ends. -/
theorem trimChars_append_of_isBlank {front text back : List Char} (frontBlank : IsBlank front)
    (backBlank : IsBlank back) : trimChars (front ++ text ++ back) = trimChars text := by
  rw [trimChars, List.append_assoc, List.dropWhile_append_of_pos frontBlank,
    List.dropWhile_append, trimChars]
  split
  next nothing =>
      rw [List.dropWhile_eq_nil_iff.mpr backBlank, List.isEmpty_iff.mp nothing]
  next => exact trimEndChars_append_of_isBlank backBlank

/-- Nothing is left of a text exactly if it is blank. -/
theorem trimChars_eq_nil_iff {text : List Char} : trimChars text = [] ↔ IsBlank text := by
  constructor
  · intro nothing
    have endsBlank : IsBlank (text.dropWhile isBlank) := by
      intro char mem
      rw [trimChars, trimEndChars, List.reverse_eq_nil_iff, List.dropWhile_eq_nil_iff] at nothing
      exact nothing char (List.mem_reverse.mpr mem)
    rw [← List.takeWhile_append_dropWhile (p := isBlank) (l := text), isBlank_append_iff]
    exact ⟨fun _ => List.mem_takeWhile_imp, endsBlank⟩
  · intro blank
    rw [trimChars, List.dropWhile_eq_nil_iff.mpr blank]
    rfl

end Testbed.Text
