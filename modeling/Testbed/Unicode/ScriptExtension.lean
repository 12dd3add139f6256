import Testbed.Unicode.Ranges

/-!
# Script extensions

This file supplies the characters that are used with a script, for those scripts
where they are not just the characters of the script itself.
-/

namespace Testbed.Unicode

/-- Names and members of the extended scripts. -/
def scriptExtensions : List (List String × List String) :=
  [(["Adlam", "Adlm"],
     ["61f 0 21 0 1a0f 0 df2 0 1babf 4b 5 9 5 1"]),
   (["Arabic", "Arab"],
     ["600 4 2 d6 2 21 51 2f f1 1e 2 1 6 4a 2 1c 1750 0 df2 0 cd0f 72 11 1bc 3 35 8 0",
      "21 f 71 4 2 86 3e4 1b b65 1e 44 2 38 3 df01 3 2 1a 2 1 2 0 3 0 2 9 2 3 2 0 2 0 7",
      "0 5 0 2 0 2 0 2 2 2 1 2 0 3 0 2 0 2 0 2 0 2 0 2 1 2 0 3 3 2 6 2 3 2 3 2 0 2 9 2",
      "10 6 2 2 4 2 10 35 1"]),
   (["Armenian", "Armn"],
     ["308 0 229 25 3 31 3 2 f584 4"]),
   (["Avestan", "Avst"],
     ["b7 0 2d79 1 dccf 35 4 6"]),
   (["Bengali", "Beng"],
     ["2bc 0 695 1 12 1 1b 3 2 7 3 1 3 15 2 6 2 0 4 3 3 8 3 1 3 3 9 0 5 1 2 4 3 18 12d2",
      "0 2 0 3 1 2 0 9 0 9 0 3 0 5 0 3 2 8bfa 0"]),
   (["Bopomofo", "Bopo"],
     ["2c7 0 2 2 e 0 11 1 2d16 2 5 9 2 c b 3 3 0 7 0 c4 0 a 2a 71 1f cc86 1 11b 4"]),
   (["Buginese", "Bugi"],
     ["1a00 1b 3 1 8fb0 0"]),
   (["Buhid", "Buhd"],
     ["1735 1 a 13"]),
   (["Carian", "Cari"],
     ["b7 0 1fa3 0 3 0 dd4 0 d46f 30"]),
   (["Caucasian_Albanian", "Aghb"],
     ["304 0 2d 0 2d 0 101d2 33 c 0"]),
   (["Chakma", "Cakm"],
     ["9e6 9 651 9 100b7 34 2 11"]),
   (["Cherokee", "Cher"],
     ["300 2 2 0 7 1 17 1 c 1 106f 55 3 5 9773 4f"]),
   (["Common", "Zyyy"],
     ["0 40 1b 5 1b 2e 2 b 2 1 2 4 18 0 20 0 1c2 2 2 9 2 0 4 0 2 8 2 0 2 5 6 4 3 13 7f",
      "0 7 0 2 0 27e 0 d8 0 205 0 55d 0 196 3 1028 b 3 20 2 1e 2 9 2 1 2 6 2 a 4 a 2 e",
      "12 20 40 25 2 2 3 5 2 1a 2 10 2a 2 5 299 17 a 16 39f 101 273 3 1f 2 68 201 16 2",
      "17 3 9 2 3 2 0 2 19 1a3 0 4 0 e 0 e 0 16 0 212 17 20 0 32 e d 3 a2 9 6 5f 20 0",
      "19c1 3f 5909 19 67 2 3d1 0 f 1 52a5 9 17 14 3 b 2 12 2 3 94 0 2 1f 1b 5 1b 5 80",
      "6 2 6 b 4 193 c 34 2c ca04 f9 7 1b3 9d 73 3d f5 b 26 3 3d 4 10 9 1 8 1d 5 3c d6",
      "13 d 13 d 56 1c 6 88 54 2 46 2 1 3 0 3 1 3 3 2 b 2 0 2 6 2 40 2 3 3 7 2 6 2 1b 2",
      "3 2 4 2 0 4 6 2 153 3 123 3 31 1472 43 4d 3c 2c3 2b 5 63 d e 3 e 2 e 2 24 b ad",
      "39 19 2 1 e 2b 5 8 18 5 9b 3d7 5 10 4 c 4 76 5 5e 7 b 5 0 10 b 5 37 9 9 7 27 9",
      "1d 3 b 5 1 3f 153 d d 3 c 4 9 6 37 8 e 3 a 7 8 8 92 2 65 c0408 0 1f 5f"]),
   (["Coptic", "Copt", "Qaac"],
     ["b7 0 249 0 4 1 2 0 6d 1 6d d 2891 73 6 6 118 0 d4c9 1b"]),
   (["Cypriot", "Cprt"],
     ["10100 2 5 2c 4 8 6c1 5 3 0 2 2b 2 1 4 0 3 0"]),
   (["Cypro_Minoan", "Cpmn"],
     ["10100 1 2e8f 62"]),
   (["Cyrillic", "Cyrl"],
     ["2bc 0 44 2 2 0 2 0 2 0 3 0 6 0 ef 12f 1751 a a1 0 4d 0 80 0 fe8 1f 44 0 77fd 5f",
      "578f 1 e201 3d 22 0"]),
   (["Devanagari", "Deva"],
     ["2bc 0 644 52 3 2a 1351 26 2 1 3f7 0 8740 9 a7 1f 7201 9"]),
   (["Dogra", "Dogr"],
     ["964 b 9ec1 9 6fc7 3b"]),
   (["Duployan", "Dupl"],
     ["b7 0 250 1 2 0 19 1 2b18 0 18dc4 6a 6 c 4 8 8 9 3 7"]),
   (["Elbasan", "Elba"],
     ["b7 0 24e 0 101fb 27"]),
   (["Ethiopic", "Ethi"],
     ["30e 0 ef2 48 2 3 3 6 2 0 2 3 3 28 2 3 3 20 2 3 3 6 2 0 2 3 3 e 2 38 2 3 3 42 3",
      "1f 4 19 19e7 16 a 6 2 6 2 6 2 6 2 6 2 6 2 6 2 6 7d23 5 3 5 3 5 a 6 2 6 13cb2 6 2",
      "3 2 1 2 e"]),
   (["Garay", "Gara"],
     ["60c 0 f 0 4 0 10721 25 4 1c 9 1"]),
   (["Georgian", "Geor"],
     ["b7 0 4d2 0 b17 25 2 0 6 0 3 2f b91 2a 3 2 39b 0 ca6 25 2 0 6 0 104 0"]),
   (["Glagolitic", "Glag"],
     ["b7 0 24c 0 2 0 17f 0 3 0 102 0 b72 0 f5f 0 ba6 5f 1e4 0 782c 0 13991 6 2 10 3 6",
      "2 1 2 4"]),
   (["Gothic", "Goth"],
     ["b7 0 24d 1 3 0 29 0 ffff 1a"]),
   (["Grantha", "Gran"],
     ["951 1 12 1 281 d 10dd 0 2 1 1f 2 4 1 3f7 0 f210 3 2 7 3 1 3 15 2 6 2 1 2 4 2 9 3",
      "1 3 2 3 0 7 0 6 6 3 6 4 4 c5c 1 2 0"]),
   (["Greek", "Grek"],
     ["b7 0 249 1 3 0 2 0 2 0 b 0 2f 0 3 0 2b 7 3 3 2 0 5 0 2 0 2 2 2 0 2 13 2 3e f f",
      "1927 4 33 4 5 4 55 2 13f 15 3 5 3 25 3 5 3 7 2 0 2 0 2 0 2 1e 3 34 2 e 2 d 3 5 2",
      "12 3 2 2 8 5f 0 c9 0 8a3f 0 55db 4e 12 0 d060 45"]),
   (["Gujarati", "Gujr"],
     ["951 1 12 1 11c 2 2 8 2 2 2 15 2 6 2 1 2 4 3 9 2 2 2 2 3 0 10 3 3 b 8 6 9d31 9"]),
   (["Gunjala_Gondi", "Gong"],
     ["b7 0 8ad 1 113fb 5 2 1 2 24 2 1 2 5 8 9"]),
   (["Gurmukhi", "Guru"],
     ["951 1 12 1 9c 2 2 5 5 1 3 15 2 6 2 1 2 1 2 1 3 0 2 4 5 1 3 2 4 0 8 3 2 0 8 10",
      "9dba 9"]),
   (["Gurung_Khema", "Gukh"],
     ["965 0 1579b 39"]),
   (["Han", "Hani"],
     ["b7 0 2dc9 19 2 58 d d5 1b f 2 2 2 c 2 c 2 c 3 0 7 8 bc 0 95 f 21 25 a 0 31 27 39",
      "30 10 b 34 0 59 18 b 4 61 1e 2 19bf 41 51ff 701 7 51f9 16d 3 69 36c 1 11b 4 707d",
      "1 d 1 636f 11 1edf 1 daf a6df 21 1039 7 dd 3 1681 f 1d30 10 26d 9a3 21d 5e3 134a",
      "6 105f"]),
   (["Hangul", "Hang"],
     ["1100 ff 1e02 2 5 9 2 c f 2 7 0 c4 0 36 5d 72 1e 42 1e 76e2 1c 284 2ba3 d 16 5 30",
      "264a 1 11b 4 3b 1e 4 5 3 5 3 5 3 2"]),
   (["Hanifi_Rohingya", "Rohg"],
     ["60c 0 f 0 4 0 21 0 94 0 1062c 27 9 9"]),
   (["Hanunoo", "Hano"],
     ["1720 16"]),
   (["Hebrew", "Hebr"],
     ["307 1 289 36 9 1a 5 5 f529 19 2 4 2 0 2 1 2 1 2 9"]),
   (["Hiragana", "Hira"],
     ["3001 2 5 9 2 c 11 5 2 0 5 1 4 55 3 7 5b 1 cd49 1 11b 4 b 0 2e 1 b062 11e 13 0 1e",
      "2 40ae 0"]),
   (["Inherited", "Zinh", "Qaai"],
     ["30f 0 3 0 2 b 2 1 4 6 3 0 3 f 2 1 2 11 2 4 2 3 5f1 1 115c 1e 2f4 35 2 0 2 4 20d",
      "1 c3 1f dd11 f 11 d 3d0 0 cd03 2d 3 16 221 2 12 7 3 6 1f 3 c2f53 ef"]),
   (["Javanese", "Java"],
     ["a980 4d 2 a 5 1"]),
   (["Kaithi", "Kthi"],
     ["966 9 24c2 0 79ff 9 6847 42 b 0"]),
   (["Kannada", "Knda"],
     ["951 1 12 1 31b c 2 2 2 16 2 9 2 4 3 8 2 2 2 3 8 1 7 1 2 3 3 9 2 2 fdd 0 2 1 7 0",
      "18 0 2 0 8b3c 5"]),
   (["Katakana", "Kana"],
     ["305 0 1e 0 2cde 2 5 9 2 c 11 5 2 0 5 1 5c 3 4 5f f1 f d1 2e 2 57 caee 1 11b 3e",
      "b051 3 2 6 2 1 2 0 120 2 33 0 f 3"]),
   (["Kayah_Li", "Kali"],
     ["a900 2f"]),
   (["Khojki", "Khoj"],
     ["ae6 9 9d41 9 69c7 11 2 2e"]),
   (["Khudawadi", "Sind"],
     ["964 1 9ecb 9 6a77 3a 6 9"]),
   (["Latin", "Latn"],
     ["41 19 7 19 30 0 d 0 3 0 6 16 2 1e 2 1c0 4 0 b 0 2 2 2 0 a 0 2 0 7 4 1c e 2 1 2 0",
      "d 0 3 2 8 1 2 1 27 0 6 0 5 c 116 1 4cb 1 7a9 0 c05 25 7 30 6 3 6 c 2 45 3a 0 8",
      "ff 130 0 42 0 e 0 11 c 54 0 3a 1 7 0 1c 0 12 28 ad8 1f 198 0 78e9 7 1b 65 4 42 3",
      "1 2 0 2 7 16 d 12f 0 202 2a 2 8 2 3 4f97 6 41b 19 7 19 826 5 2 29 2 8 d746 1e 7",
      "5"]),
   (["Limbu", "Limb"],
     ["965 0 f9b 1e 2 b 5 b 5 0 4 b"]),
   (["Linear_A", "Lina"],
     ["10107 2c 4cd 136 a 15 b 7"]),
   (["Linear_B", "Linb"],
     ["10000 b 2 19 2 12 2 1 2 e 3 d 23 7a 6 2 5 2c 4 8"]),
   (["Lisu"],
     ["2bc 0 11 0 2d3d 1 74c5 2f 7ab1 0"]),
   (["Lycian", "Lyci"],
     ["205a 0 e226 1c"]),
   (["Lydian", "Lydi"],
     ["b7 0 2d7a 0 daef 19 6 0"]),
   (["Mahajani", "Mahj"],
     ["b7 0 8ad b 9ec1 9 6917 26"]),
   (["Malayalam", "Mlym"],
     ["951 1 12 1 39b c 2 2 2 32 2 2 2 5 5 f 3 19 f5b 0 18 0 8b3e 2"]),
   (["Mandaic", "Mand"],
     ["640 0 200 1b 3 0"]),
   (["Manichaean", "Mani"],
     ["640 0 10480 26 5 b"]),
   (["Masaram_Gondi", "Gonm"],
     ["964 1 1139b 6 2 1 2 2b 4 0 2 1 2 8 9 9"]),
   (["Meroitic_Hieroglyphs", "Mero"],
     ["205d 0 e923 1f"]),
   (["Modi"],
     ["a830 9 6dc7 44 c 9"]),
   (["Mongolian", "Mong"],
     ["1800 19 7 58 8 2a 785 0 fd2 1 6 3 e655 c"]),
   (["Multani", "Mult"],
     ["a66 9 10811 6 2 0 2 3 2 e 2 a"]),
   (["Myanmar", "Mymr"],
     ["1000 9f 988f 0 b2 1e 62 1f 6c51 13"]),
   (["Nandinagari", "Nand"],
     ["964 1 381 9 ffa 0 9 0 8 0 8b36 5 716b 7 3 2d 3 a"]),
   (["Nko", "Nkoo"],
     ["60c 0 f 0 4 0 1a1 3a 3 2 f53f 1"]),
   (["Ol_Onal", "Onao"],
     ["964 1 1dc6b 2a 5 0"]),
   (["Old_Hungarian", "Hung"],
     ["205a 0 3 0 dd4 0 10 0 de3f 32 e 32 8 5"]),
   (["Old_Permic", "Perm"],
     ["b7 0 249 0 6 2 b 0 170 0 fecd 2a"]),
   (["Old_Turkic", "Orkh"],
     ["205a 0 dd6 0 ddd0 48"]),
   (["Old_Uyghur", "Ougr"],
     ["640 0 104b2 0 47e 19"]),
   (["Oriya", "Orya"],
     ["951 1 12 1 19c 2 2 7 3 1 3 15 2 6 2 1 2 4 3 8 3 1 3 2 8 2 5 1 2 4 3 11 1163 0 18",
      "0"]),
   (["Osage", "Osge"],
     ["301 0 3 0 7 0 4d 0 10158 23 5 23"]),
   (["Phags_Pa", "Phag"],
     ["1802 1 2 0 82a 0 fd3 0 783e 37"]),
   (["Psalter_Pahlavi", "Phlp"],
     ["640 0 10540 11 8 3 d 6"]),
   (["Runic", "Runr"],
     ["16a0 58"]),
   (["Samaritan", "Samr"],
     ["800 2d 3 e 25f3 0"]),
   (["Sharada", "Shrd"],
     ["951 0 1386 0 2 0 3 1 3 0 8b50 5 3 0 6948 5f"]),
   (["Shavian", "Shaw"],
     ["b7 0 10399 2f"]),
   (["Sinhala", "Sinh"],
     ["964 1 41c 2 2 11 4 17 2 8 2 0 3 6 4 0 5 5 2 0 2 7 7 9 3 2 efe 0 f4ef 13"]),
   (["Sogdian", "Sogd"],
     ["640 0 108f0 29"]),
   (["Sunuwar", "Sunu"],
     ["300 1 2 0 a 0 3 0 1d 0 4 0 1188f 21 f 9"]),
   (["Syloti_Nagri", "Sylo"],
     ["964 1 81 9 9e11 2c"]),
   (["Syriac", "Syrc"],
     ["303 1 3 1 2 0 16 0 3 2 8 1 2 0 2dc 0 f 1 3 0 21 0 b a 1b 0 90 d 2 3b 3 2 111 a",
      "158e 0 2 0"]),
   (["Tagalog", "Tglg"],
     ["1700 15 a 0 16 1"]),
   (["Tagbanwa", "Tagb"],
     ["1735 1 2a c 2 2 2 1"]),
   (["Tai_Le", "Tale"],
     ["300 1 6 1 4 0 d34 9 907 1d 3 4"]),
   (["Takri", "Takr"],
     ["964 1 9ecb 9 6e47 39 7 9"]),
   (["Tamil", "Taml"],
     ["951 1 12 1 21d 1 2 5 4 2 2 3 4 1 2 0 2 1 4 1 4 2 4 b 5 4 4 2 2 3 3 0 7 0 f 14",
      "10e0 0 8c19 0 6a0e 0 2 0 38 1 c84 31 e 0"]),
   (["Tangut", "Tang"],
     ["2ff0 f 1f0 0 13df1 0 20 17f7 9 2ff 201 8"]),
   (["Telugu", "Telu"],
     ["951 1 12 1 29b c 2 2 2 16 2 f 3 8 2 2 2 3 8 1 2 2 3 0 3 3 3 9 8 8 105b 0 18 0"]),
   (["Thaana", "Thaa"],
     ["60c 0 f 1 3 0 41 9 117 31 f641 0 b 0"]),
   (["Thai"],
     ["2bc 0 1b 0 2c 0 2e 0 ad0 39 6 1b"]),
   (["Tibetan", "Tibt"],
     ["f00 47 2 23 5 26 2 23 2 e 2 6 5 1 202e 3"]),
   (["Tifinagh", "Tfng"],
     ["302 0 2 0 3 0 2 0 2a27 37 8 1 f 0"]),
   (["Tirhuta", "Tirh"],
     ["951 1 12 1 138d 0 8b3e 9 6c47 47 9 9"]),
   (["Todhri", "Todr"],
     ["301 0 3 0 3 0 a 0 2 0 4b 0 10262 33"]),
   (["Toto"],
     ["2bc 0 1dfd4 1e"]),
   (["Tulu_Tigalari", "Tutg"],
     ["ce6 9 1003 0 2 0 8b3c 5 bc 0 6a8f 9 2 0 3 0 2 25 2 9 2 0 3 0 2 3 2 9 2 1 9 1"]),
   (["Yezidi", "Yezi"],
     ["60c 0 f 0 4 0 41 9 10817 29 2 2 3 1"]),
   (["Yi", "Yiii"],
     ["3001 1 6 9 3 7 e0 0 6f05 48c 4 36 5a9b 4"])]

end Testbed.Unicode
