/-!
# Texts cut into pieces

This file supplies the cutting of a text at every occurrence of a character.  The
pieces and the characters between them make up the text again.
-/

namespace Testbed.Text

/-- A list cut at every occurrence of a character. -/
def pieces (separator : Char) : List Char → List (List Char)
  | [] => [[]]
  | char :: rest =>
      if char = separator then
        [] :: pieces separator rest
      else
        match pieces separator rest with
        | [] => [[char]]
        | first :: others => (char :: first) :: others

theorem pieces_ne_nil (separator : Char) (chars : List Char) :
    pieces separator chars ≠ [] := by
  cases chars with
  | nil => simp [pieces]
  | cons char rest =>
      rw [pieces]
      split
      · simp
      · split <;> simp

end Testbed.Text
