/-!
# Blank characters

This file supplies the characters with the Unicode property White_Space and the
removal of them from the ends of a text.
-/

namespace Testbed.Text

/-- Whether a character is white space. -/
def isBlank (char : Char) : Bool :=
  let point := char.toNat
  (0x09 ≤ point && point ≤ 0x0D) || point == 0x20 || point == 0x85
    || point == 0xA0 || point == 0x1680 || (0x2000 ≤ point && point ≤ 0x200A)
    || point == 0x2028 || point == 0x2029 || point == 0x202F || point == 0x205F
    || point == 0x3000

/-- A list of characters without blanks at its end. -/
def trimEndChars (chars : List Char) : List Char :=
  (chars.reverse.dropWhile isBlank).reverse

/-- A list of characters without blanks at its ends. -/
def trimChars (chars : List Char) : List Char :=
  trimEndChars (chars.dropWhile isBlank)

/-- A text without blanks at its ends. -/
def trim (text : String) : String :=
  String.ofList (trimChars text.toList)

/-- A text with its ASCII capitals made small. -/
def toLowerAscii (text : String) : String :=
  String.ofList (text.toList.map Char.toLower)

end Testbed.Text
