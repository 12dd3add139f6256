import Testbed.Unicode.Ranges

/-!
# Segmentation

This file supplies the classes of characters by which text is divided into
characters as a reader sees them, words and sentences.
-/

namespace Testbed.Unicode

/-- Names and members of the classes that bound characters as a reader sees them,
except those that follow from other properties. -/
def graphemeBreaks : List (List String × List String) :=
  [(["CR"],
     ["d 0"]),
   (["Control", "CN"],
     ["0 9 2 1 2 11 60 20 e 0 56f 0 11f2 0 7fd 0 3 1 19 6 32 f de90 0 f1 b 3435 f 8861",
      "3 14d0 7 c2e86 1f 61 7f f1 e0f"]),
   (["L"],
     ["1100 5f 9801 1c"]),
   (["LF"],
     ["a 0"]),
   (["Prepend", "PP"],
     ["600 5 d8 0 32 0 181 1 51 0 46c 0 1036f 0 10 0 f5 1 20e 0 56e 0 2 0 f9 0 4a 5 2bd",
      "0 1bc 0"]),
   (["Regional_Indicator", "RI"],
     ["1f1e6 19"]),
   (["SpacingMark", "SM"],
     ["903 0 38 0 3 2 9 3 2 1 33 1 3c 1 7 1 3 1 37 0 3b 2 43 0 3b 2 9 0 2 1 36 1 3d 0 7",
      "1 3 1 73 0 2 1 4 2 2 2 35 2 3e 3 3e 1 3b 0 3 0 2 1 2f 0 f 1 3c 1 6 2 2 2 36 1 4d",
      "1 7 6 14 1 40 0 80 0 8b 1 40 0 b2 0 a 1 1a 1 2d 0 732 0 8 7 2 1 15b 3 3 2 5 1 2",
      "5 e1 1 3b 0 2 0 16 5 92 0 3a 3 41 0 1f 0 5 1 40 0 3 2 2 0 36 7 9 1 ac 0 16 0",
      "8b2c 1 3 0 59 1 33 f 8f 0 31 0 31 1 5 1 3 1 70 1 3 1 19 0 9e 0 3 1 6 0 ee 1 2 1",
      "2 1 2 0 6414 0 2 0 80 0 2e 2 5 1 74 0 19 1 3c 0 31 2 a 0 f 0 5e 2 4 1 ad 2 20 1",
      "3c 0 2 3 3 1 3 1 16 1 56 1 10 0 2 1 68 2 9 1 4 0 6c 1 7 0 2 1 2 0 3 0 ef 1 7 3 3",
      "0 72 2 9 1 2 0 6e 0 2 1 6f 0 8 0 106 2 a 0 f9 4 2 1 8 0 2 0 8f 2 9 3 5 0 55 0 1e",
      "1 3f 0 198 0 f 0 6b 0 8 0 3 0 d6 4 5 1 2 0 15f 1 d 0 31 1 9 1 41eb 2 e25 36"]),
   (["T"],
     ["11a8 57 c5cc 30"]),
   (["V"],
     ["1160 47 c609 16 959d 0 4 3"]),
   (["ZWJ"],
     ["200d 0"])]

/-- Names and members of the classes that bound words, except those that follow from
other properties. -/
def wordBreaks : List (List String × List String) :=
  [(["ALetter", "LE"],
     ["41 19 7 19 30 0 b 0 5 0 6 16 2 1e 2 1df 7 21 71 4 2 1 3 3 2 0 7 0 2 2 2 0 2 13 2",
      "52 2 8a 9 a5 2 25 3 3 2 0 2 28 2 0 69 0 2d 2a 24 1 2 62 2 0 10 1 8 1 b 2 3 0 10",
      "1 2 1d 1e 58 c 0 19 20 a 1 5 0 6 15 5 0 a 0 4 0 18 18 8 a 6 17 2 5 12 29 3b 35 4",
      "0 13 0 8 9 10 f 5 7 3 1 3 15 2 6 2 0 4 3 4 0 11 0 e 1 2 2 f 1 b 0 9 5 5 1 3 15 2",
      "6 2 1 2 1 2 1 20 3 2 0 14 2 11 8 2 2 2 15 2 6 2 1 2 4 4 0 13 0 10 1 18 0 c 7 3 1",
      "3 15 2 6 2 1 2 4 4 0 1f 1 2 2 10 0 12 0 2 5 4 2 2 3 4 1 2 0 2 1 4 1 4 2 4 b 17 0",
      "35 7 2 2 2 16 2 f 4 0 1b 2 3 0 3 1 1f 0 5 7 2 2 2 16 2 9 2 4 4 0 20 1 2 1 10 1",
      "12 8 2 2 2 28 3 0 11 0 6 2 9 2 19 5 6 11 4 17 2 8 2 0 3 6 13a 0 40 7 2 23 1c 4",
      "114 25 2 0 6 0 3 2a 2 14c 2 3 3 6 2 0 2 3 3 28 2 3 3 20 2 3 3 6 2 0 2 3 3 e 2 38",
      "2 3 3 42 26 f 11 55 3 5 4 26b 3 10 2 19 6 4a 4 a 8 11 e 12 f 11 f c 2 2 b0 58 8",
      "4 3 21 2 0 6 45 b 1e e2 16 ef 2e 12 7 37 1d e 1 b 2b 1b 23 2a 2 b 23 3 a 6 2a 3",
      "2 2a 3 2 5 2 1 4 0 6 bf 41 115 3 5 3 25 3 5 3 7 2 0 2 0 2 0 2 1e 3 34 2 6 2 0 4",
      "2 2 6 4 3 3 5 5 c 6 2 2 6 75 0 e 0 11 c 66 0 5 0 3 9 2 0 4 4 7 0 2 0 2 0 2 3 2 a",
      "3 3 6 4 5 0 12 28 32e 33 717 e4 7 3 4 1 d 25 2 0 6 0 3 37 8 0 11 16 a 6 2 6 2 6",
      "2 6 2 6 2 6 2 6 2 6 51 0 1d6 0 36 1 c9 2a 2 5d 12 1f 6e41 48c 44 2d 3 10c 4 f b",
      "1 15 2e 11 1e 3 4f 19 c5 3 1 2 0 2 7 16 f 2 2 2 3 2 16 1e 33 f 31 3f 5 4 0 2 1 c",
      "1b b 16 1a 1c 8 2e 1d 0 31 28 18 2 2 7 95 a 8 2 d 5 3 5 3 5 a 6 2 6 2 39 7 72 1e",
      "2ba3 d 16 5 30 2305 6 d 4 39 61 22 16a 13 3f 3 35 29 b 75 4 2 86 25 19 7 19 46",
      "1e 4 5 3 5 3 5 3 2 24 b 2 19 2 12 2 1 2 e 3 d 23 7a 46 34 10c 1c 4 30 30 1f e 1d",
      "6 25 b 1d 3 23 5 7 2 4 2b 9d 13 23 5 23 5 27 9 33 d a 2 e 2 6 2 1 2 a 2 e 2 6 2",
      "1 4 33 d 136 a 15 b 7 19 5 2 29 2 8 46 5 3 0 2 2b 2 1 4 0 3 16 b 16 a 1e 42 12 2",
      "1 b 15 b 19 47 37 7 1 41 0 10 3 2 2 2 1c 2b 1c 4 1c 24 7 2 1b 1c 35 b 15 b 12 e",
      "11 6f 48 38 32 e 32 e 23 27 1b a 16 fb 29 7 1 11 2 3c 1c b 0 9 15 2b 11 2f 14 1c",
      "16 d 34 3a 1 3 0 e 2c 21 18 1b 23 1e 0 3 0 9 22 4 0 d 2f f 3 16 0 2 0 24 11 2 18",
      "14 1 40 6 2 0 2 3 2 e 2 9 8 2e 27 7 3 1 3 15 2 6 2 1 2 4 4 0 13 0 d 4 1f 9 2 0 3",
      "0 2 25 2 0 1a 0 2 0 2d 34 13 3 15 2 1f 2f 15 1 2 0 b9 2e 2a 3 25 2f 15 0 3c 2a e",
      "0 148 2b 75 3f 20 7 3 0 3 7 2 1 2 17 10 0 2 0 5f 7 3 26 11 0 2 0 1d 0 b 27 8 0",
      "16 0 c 2d 14 0 13 48 c8 20 20 8 2 24 12 0 32 1d 71 6 2 1 2 25 16 0 1a 5 2 1 2 1f",
      "f 0 148 12 10 0 2 c 2 21 7d 0 50 399 67 6e 12 c3 a4d 60 10 42f 12 5 1a f9a 6 246",
      "1aba 1d 6e3 238 8 1e 12 4e 12 1d 13 2f 11 3 20 14 6 12 1b1 2c d4 3f 81 4a 6 0 43",
      "c 41 1 2 0 4c1d 6a 6 c 4 8 8 9 1767 54 2 46 2 1 3 0 3 1 3 3 2 b 2 0 2 6 2 40 2 3",
      "3 7 2 6 2 1b 2 3 2 4 2 0 4 6 2 153 3 18 2 18 2 1e 2 18 2 1e 2 18 2 1e 2 18 2 1e",
      "2 18 2 7 735 1e 7 5 106 3d 93 2c b 6 11 0 142 1d 13 2b 1e5 1b e5 1d 3 0 1f0 6 2",
      "3 2 1 2 e 2 c4 3c 43 8 0 4b5 3 2 1a 2 1 2 0 3 0 2 9 2 3 2 0 2 0 7 0 5 0 2 0 2 0",
      "2 2 2 1 2 0 3 0 2 0 2 0 2 0 2 0 2 1 2 0 3 3 2 6 2 3 2 3 2 0 2 9 2 10 6 2 2 4 2",
      "10 275 19 7 19 7 19"]),
   (["CR"],
     ["d 0"]),
   (["Double_Quote", "DQ"],
     ["22 0"]),
   (["ExtendNumLet", "EX"],
     ["5f 0 1fd0 0 10 1 14 0 dddf 1 19 2 f0 0"]),
   (["Format", "FO"],
     ["ad 0 56f 0 11f2 0 800 1 1b 4 32 4 2 9 de90 0 fa 2 3435 f 8861 3 14d0 7 c2e87 0"]),
   (["Hebrew_Letter", "HL"],
     ["5d0 1a 5 3 f52b 0 2 9 2 c 2 4 2 0 2 1 2 1 2 9"]),
   (["Katakana", "KA"],
     ["3031 4 66 1 4 5a 2 3 f1 f d1 2e 2 57 cc0f 37 b053 3 2 6 2 1 2 0 120 2 33 0 f 3"]),
   (["LF"],
     ["a 0"]),
   (["MidLetter", "ML"],
     ["3a 0 7d 0 2d0 0 1d8 0 95 0 1a33 0 ddec 0 42 0 c5 0"]),
   (["MidNum", "MN"],
     ["2c 0 f 0 343 0 20b 0 83 1 5f 0 18c 0 184c 0 de0c 0 4 0 b8 0 f 0"]),
   (["MidNumLet", "MB"],
     ["2e 0 1fea 1 b 0 de2e 0 b5 0 7 0"]),
   (["Newline", "NL"],
     ["b 1 79 0 1fa3 1"]),
   (["Numeric", "NU"],
     ["30 9 5c7 5 5b 9 2 0 72 0 13 9 c7 9 c7 1 51 0 84 9 77 9 77 9 77 9 77 9 77 9 77 9",
      "77 9 77 9 77 9 61 9 77 9 47 9 117 9 47 9 747 9 27 9 12d 9 81 a a6 9 7 9 b7 9 57",
      "9 87 9 7 9 89c7 9 2a7 9 27 9 c7 9 17 9 57 9 197 9 5317 9 587 9 887 9 7 9 31d 9",
      "4e 0 10 0 23 9 3d 9 91 9 117 9 157 9 77 9 177 9 67 9 7 13 4d 9 1a7 9 67 9 297 9",
      "57 9 f7 9 47 9 1a7 9 41d7 9 927 9 57 9 87 9 217 9 5f77 9 ad5 31 941 9 1a7 9 1f7",
      "9 f8 9 356 9 1297 9"]),
   (["Regional_Indicator", "RI"],
     ["1f1e6 19"]),
   (["Single_Quote", "SQ"],
     ["27 0"]),
   (["WSegSpace"],
     ["20 0 1660 0 980 6 2 2 55 0 fa1 0"]),
   (["ZWJ"],
     ["200d 0"])]

/-- Names and members of the classes that bound sentences, except those that follow
from other properties. -/
def sentenceBreaks : List (List String × List String) :=
  [(["ATerm", "AT"],
     ["2e 0 1ff6 0 de2e 0 bc 0"]),
   (["CR"],
     ["d 0"]),
   (["Close", "CL"],
     ["22 0 5 2 32 0 2 0 1e 0 2 0 2e 0 10 0 e7f 3 75e 1 97c 7 1a 1 b 1 37 1 f 1 27a 3",
      "1e 1 431 5 8 d 50 1 20 9 194 15 40 3 21 1 403 d f 1 3 9 19 0 13 7 1ac 9 3 7 2 2",
      "cd1f 1 d8 1 1d f 3 1 11 5 aa 1 32 0 2 0 1e 0 2 0 2 1 2 1 f713 2"]),
   (["Format", "FO"],
     ["ad 0 56f 0 f3 0 10ff 0 7fd 0 3 1 1b 4 32 4 2 9 de90 0 fa 2 3435 f 8861 3 14d0 7",
      "c2e87 0"]),
   (["LF"],
     ["a 0"]),
   (["Numeric", "NU"],
     ["30 9 5c7 5 5b 9 2 1 71 0 13 9 c7 9 c7 1 51 0 84 9 77 9 77 9 77 9 77 9 77 9 77 9",
      "77 9 77 9 77 9 61 9 77 9 47 9 117 9 47 9 747 9 27 9 12d 9 81 a a6 9 7 9 b7 9 57",
      "9 87 9 7 9 89c7 9 2a7 9 27 9 c7 9 17 9 57 9 197 9 5317 9 587 9 887 9 7 9 31d 9",
      "4e 0 10 0 23 9 3d 9 91 9 117 9 157 9 77 9 177 9 67 9 7 13 4d 9 1a7 9 67 9 297 9",
      "57 9 f7 9 47 9 1a7 9 41d7 9 927 9 57 9 87 9 217 9 5f77 9 ad5 31 941 9 1a7 9 1f7",
      "9 f8 9 356 9 1297 9"]),
   (["SContinue", "SC"],
     ["2c 1 d 1 343 0 1df 0 af 1 1eb 0 100a 0 6 0 80b 1 fed 0 ce0f 1 2 1 1d 1 1e 1 3 1",
      "3 0 b 0 a9 1 d 1 49 0"]),
   (["STerm", "ST"],
     ["21 0 1e 0 54a 0 94 2 b5 0 2c 2 f7 0 3e 0 2 0 4 1 126 1 6e5 1 317 0 5 1 306 0 c7",
      "1 9e 1 2e 0 6 0 13b 1 163 3 a3 1 b 1 3 1 1e 2 bc 1 42 1 3bd 1 a 2 cb0 2 133 0 e",
      "0 17 1 1ae 0 74fd 0 10f 1 e4 0 4 0 17f 1 57 1 60 0 99 1 94 2 91 1 fa 0 5227 0 3",
      "1 40 1 aa 0 1e 0 42 0 af5 1 4fe 4 2d 3 be 1 76 3 80 2 82 1 7 0 11 1 59 1 2 1 6d",
      "0 12b 1 76 1 176 1 6 e 6a 1 fa 2 206 0 2 0 fc 1 58 1 1a5 1 2b5 1 4b 1 4b2a 1 86",
      "0 42 1 c 0 22a 1 129 0 4e07 0 1de9 0"]),
   (["Sep", "SE"],
     ["85 0 1fa3 1"]),
   (["Sp"],
     ["9 0 2 1 14 0 80 0 15e0 0 980 a 25 0 30 0 fa1 0"])]

end Testbed.Unicode
