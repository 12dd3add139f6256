import Testbed.Unicode.Derived

/-!
# Word characters

This file supplies the characters that make up words: letters, marks, decimal
digits, connecting punctuation and the joiners.
-/

namespace Testbed.Unicode

/-- The word characters. -/
def wordChars : CharSet :=
  .unionAll
    [alphabetic, gather categories ["Mn", "Mc", "Me", "Nd", "Pc"],
      gather properties ["Join_Control"]]

end Testbed.Unicode
