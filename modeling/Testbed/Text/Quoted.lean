import Testbed.Unicode.Lookup

/-!
# Quoted texts

This file supplies texts in quotation marks in which every character can be told
apart: marks on other characters and characters that are not visible are written as
escapes.
-/

namespace Testbed.Text

/-- The characters that are shown by their number: those without a shape of their own,
and blanks other than the usual one. -/
def unshown : Unicode.CharSet :=
  let named (name : String) := (Unicode.named? name).getD .empty
  (Unicode.CharSet.unionAll
    [named "Other", named "Separator", named "Grapheme_Extend"]).diff (.singleton 0x20)

/-- A character between quotation marks. -/
def quotedChar (char : Char) : List Char :=
  if char = '"' ∨ char = '\\' then ['\\', char]
  else if char = '\x00' then ['\\', '0']
  else if char = '\t' then ['\\', 't']
  else if char = '\n' then ['\\', 'n']
  else if char = '\r' then ['\\', 'r']
  else if unshown.has char.toNat then
    ['\\', 'u', '\x7b'] ++ Nat.toDigits 16 char.toNat ++ ['\x7d']
  else [char]

/-- A text between quotation marks. -/
def quoted (text : String) : String :=
  "\"" ++ String.ofList (text.toList.flatMap quotedChar) ++ "\""

end Testbed.Text
