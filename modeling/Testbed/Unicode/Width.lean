import Testbed.Unicode.Lookup

/-!
# Display widths

This file supplies the sets of characters on which the columns of a text in a terminal
depend.  They know a few characters that are newer than the other properties.
-/

namespace Testbed.Unicode

/-- The wide characters. -/
def wide : CharSet :=
  readRanges
    ["1100 5f 645 0 b76 1 e 1 bf 3 4 0 3 0 20a 1 16 1 1b 7 11 b 2c 0 b 5 4 0 e 0 9 1",
     "12 1 6 1 9 0 6 0 16 0 8 1 2 0 5 0 3 0 8 0 5 1 1d 0 24 0 2 0 5 2 2 0 3e 2 19 0 f",
     "0 35c 1 34 0 5 0 32b 19 2 58 d d5 1b 39 7 e 3 55 5 64 6 2a 2 32 2 29 2 55 a 2f 2",
     "27 9 723c 4 36 49a 1c 284 2ba3 215d 1ff 311 9 17 22 2 12 2 3 96 5f 80 6 6ffa 3 f",
     "4 a 1cd5 2a 1f 62 72 21fe 3 2 6 2 1 2 122 10 0 1e 2 3 0 f 3 9 18b 2005 56 a 16",
     "1c8e 0 cb 0 bf 0 3 9 66 2 e 2b 5 8 8 1 f 5 9b 20 d 8 2 45 2 15 d 2a 5 4 d 10 4 0",
     "4 46 2 0 2 ba 3 3e e 3 2 17 13 0 1b 1 e 0 57 54 31 45 7 0 4 2 3 3 4 3 c 1 8 8 e4",
     "b 5 0 11c 2e 2 9 2 b8 71 c 4 a 4 38 2 0 5 f 3 b 5 9 508 fffd 3 fffd"]

/-- Further characters that take no column: vowels and final consonants of Hangul,
signs written around numbers, and marks that have no property of their own yet. -/
def furtherWidthless : CharSet :=
  readRanges
    ["605 0 10a 0 181 1 51 0 46c 0 413 9e 8d0 e 3 b 8e0f 0 2eb6 16 5 30 36ff 1 2c7 1",
     "20e 0 56e 0 2 0 143 5 d7 0 2 2 2 0 1e0 0 1bc 0 c7e1 0 3 0 8 1 6 0"]

/-- Characters without a column that break the joining of the letters around them. -/
def unjoining : CharSet :=
  readRanges
    ["605 0 28b 1 51 0 dc 0 19 0 167 0 19 0 67 0 19 0 e9 0 2 0 5 1 2 1 a 1 68 0 10 0 9",
     "0 78 0 10 0 381 9f 516 0 1f 0 da 0 327 0 6 0 2 0 6 1 66 0 48 1 419 1 58 4 fc5 1",
     "135 0 7796 0 59 0 6d 0 2df0 16 5 30 27a3 2 50 8 11c8 0 2 1 72 0 109 0 f 0 a 0 61",
     "0 a 0 3 0 2 2 6 0 2 0 df 0 d 0 f2 0 107 0 27a 0 d 0 2 0 2 0 143 5 2bd 0 1bc 0 3f",
     "0 50af 1 6174 1 7 5 c2e8e 0 2 1d 61 7f f1 e0f"]

/-- The characters with an emoji variant. -/
def styled : CharSet :=
  readRanges
    ["23 0 7 0 6 9 70 0 5 0 1f8e 0 d 0 d9 0 17 0 5b 5 10 1 170 1 d 0 a7 0 1a a 5 2 c8",
     "0 e8 1 b 0 a 0 3b 3 2 4 a 0 3 0 3 1 3 0 5 0 3 0 2 1 3 0 4 0 4 1 9 2 6 0 2 0 6 b",
     "c 1 3 0 2 1 2 0 13 0 3 1 13 5 2 0 2 1 4 1 6 0 3 1 5 1 c 1 6 1 3 0 6 1 2 0 2 1 15",
     "1 6 5 2 3 3 0 5 0 3 0 3 5 2 0 3 0 2 0 2 0 7 0 4 0 7 0 b 1 10 0 3 0 5 0 2 0 5 2 2",
     "0 c 1 31 2 a 0 f 0 f 0 175 1 1d0 2 14 1 34 0 5 0 4db 0 d 0 25a 0 2 0 1bd6b 0 16c",
     "1 d 1 83 0 18 0 15 0 8 0 d6 2 6 0 7 0 5 0 3 8 a 0 42 0 5 0 16 0 3 1 2 2 3 1 8 0",
     "5 2 14 0 2 0 2 0 4 4 6 c d 0 6 0 2 0 2 0 11 0 d 0 a 0 7 0 19 0 2 1 4 3 4 1 5 0",
     "17 0 13 0 26 0 d 0 3 0 8 0 4 0 c 0 f 0 5 0 5 2 4 3 a 0 2 2 2 0 b 0 5 0 5 1 36 1",
     "6 17 8 1 3 6 e 0 3 3 3 0 15 0 3 0 9 1 a 0 6 2 d 2 9 2 3 0 2 0 5 0 7 0 4 0 7 0 16",
     "0 77 0 6 0 4 0 3 0 4 0 15 0 5 0 7 1 2 0 f 0 2 2 11 5 4 0 7 0 3 0"]

/-- The characters that take no column: marks on other characters, and characters that
are not shown. -/
def widthless : CharSet :=
  let marks := (named? "Grapheme_Extend").getD .empty
  let hidden := (named? "Default_Ignorable_Code_Point").getD .empty
  (CharSet.unionAll [marks, hidden, furtherWidthless]).diff (.ofPoints [0x115F, 0x2D7F])

/-- Letters that are joined with a lam in front of them. -/
def joinedAlefs : CharSet :=
  .ofRanges
    [(0x622, 0x623), (0x625, 0x625), (0x627, 0x627), (0x671, 0x673), (0x675, 0x675),
     (0x773, 0x774), (0x870, 0x882)]

/-- Letters that are joined with an alef behind them. -/
def joinedLams : CharSet :=
  .ofRanges
    [(0x644, 0x644), (0x6B5, 0x6B8), (0x76A, 0x76A), (0x8A6, 0x8A6), (0x8C7, 0x8C7)]

/-- Khmer letters that have a subscript form. -/
def subscripts : CharSet :=
  .ofRanges
    [(0x1780, 0x1782), (0x1784, 0x1787), (0x1789, 0x178C), (0x178E, 0x1793),
     (0x1795, 0x1798), (0x179B, 0x179D), (0x17A0, 0x17A0), (0x17A2, 0x17A2),
     (0x17A7, 0x17A7), (0x17AB, 0x17AC), (0x17AF, 0x17AF)]

/-- Tifinagh consonants. -/
def consonants : CharSet :=
  .ofRanges [(0x2D31, 0x2D65), (0x2D6F, 0x2D6F)]

/-- The letters of flags. -/
def indicators : CharSet :=
  .ofRanges [(0x1F1E6, 0x1F1FF)]

/-- The skin tones of emoji. -/
def skinTones : CharSet :=
  .ofRanges [(0x1F3FB, 0x1F3FF)]

/-- The emoji that take a skin tone. -/
def toned : CharSet :=
  (named? "Emoji_Modifier_Base").getD .empty

/-- The characters that are emoji without a selector. -/
def emojis : CharSet :=
  let newer :=
    [0x1F6D8, 0x1FA8A, 0x1FA8E, 0x1FAC8, 0x1FACD, 0x1FAEA, 0x1FAEF]
  let known := (named? "Emoji_Presentation").getD .empty
  (known.union (.ofPoints newer)).diff (indicators.union skinTones)

/-- The emoji that a selector turns into text. -/
def textStyled : CharSet :=
  (emojis.inter styled).diff (.ofRanges [(0x1F200, 0x1F2FF)])

/-- The invisible characters that do not part the letters around them, except the
joiner. -/
def ligatureIgnored : CharSet :=
  .ofRanges
    [(0x34F, 0x34F), (0x17B4, 0x17B5), (0x180B, 0x180D), (0x180F, 0x180F),
     (0xFE00, 0xFE0F), (0xE0100, 0xE01EF)]

end Testbed.Unicode
