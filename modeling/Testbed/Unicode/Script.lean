import Testbed.Unicode.Ranges

/-!
# Scripts

This file supplies the Unicode script of each character that has one.
-/

namespace Testbed.Unicode

/-- Names and members of the scripts. -/
def scripts : List (List String × List String) :=
  [(["Adlam", "Adlm"],
     ["1e900 4b 5 9 5 1"]),
   (["Ahom"],
     ["11700 1a 3 e 5 16"]),
   (["Anatolian_Hieroglyphs", "Hluw"],
     ["14400 246"]),
   (["Arabic", "Arab"],
     ["600 4 2 5 2 d 2 2 2 1f 2 9 c 19 2 6b 2 21 51 2f f1 1e 2 1 6 4a 2 1c f251 72 11",
      "16a 3 4f 3 35 8 0 21 f 71 4 2 86 f64 1e 44 2 38 3 df01 3 2 1a 2 1 2 0 3 0 2 9 2",
      "3 2 0 2 0 7 0 5 0 2 0 2 0 2 2 2 1 2 0 3 0 2 0 2 0 2 0 2 0 2 1 2 0 3 3 2 6 2 3 2",
      "3 2 0 2 9 2 10 6 2 2 4 2 10 35 1"]),
   (["Armenian", "Armn"],
     ["531 25 3 31 3 2 f584 4"]),
   (["Avestan", "Avst"],
     ["10b00 35 4 6"]),
   (["Balinese", "Bali"],
     ["1b00 4c 2 31"]),
   (["Bamum", "Bamu"],
     ["a6a0 57 c109 238"]),
   (["Bassa_Vah", "Bass"],
     ["16ad0 1d 3 5"]),
   (["Batak", "Batk"],
     ["1bc0 33 9 3"]),
   (["Bengali", "Beng"],
     ["980 3 2 7 3 1 3 15 2 6 2 0 4 3 3 8 3 1 3 3 9 0 5 1 2 4 3 18"]),
   (["Bhaiksuki", "Bhks"],
     ["11c00 8 2 2c 2 d b 1c"]),
   (["Bopomofo", "Bopo"],
     ["2ea 1 2e1a 2a 71 1f"]),
   (["Brahmi", "Brah"],
     ["11000 4d 5 23 a 0"]),
   (["Braille", "Brai"],
     ["2800 ff"]),
   (["Buginese", "Bugi"],
     ["1a00 1b 3 1"]),
   (["Buhid", "Buhd"],
     ["1740 13"]),
   (["Canadian_Aboriginal", "Cans"],
     ["1400 27f 231 45 101bb f"]),
   (["Carian", "Cari"],
     ["102a0 30"]),
   (["Caucasian_Albanian", "Aghb"],
     ["10530 33 c 0"]),
   (["Chakma", "Cakm"],
     ["11100 34 2 11"]),
   (["Cham"],
     ["aa00 36 a d 3 9 3 3"]),
   (["Cherokee", "Cher"],
     ["13a0 55 3 5 9773 4f"]),
   (["Chorasmian", "Chrs"],
     ["10fb0 1b"]),
   (["Common", "Zyyy"],
     ["0 40 1b 5 1b 2e 2 e 2 4 18 0 20 0 1c2 26 6 4 3 13 75 0 a 0 7 0 2 0 27e 0 7 0 f 0",
      "4 0 21 0 9d 0 205 0 82 1 4da 0 196 3 123 0 5f0 2 48 1 cc 1 2 0 4ce 0 e 0 8 3 2 5",
      "2 2 3 0 306 b 3 56 2 a 4 a 2 e 12 20 40 25 2 2 3 5 2 1a 2 10 2a 2 5 299 17 a 16",
      "39f 101 273 3 1f 2 68 201 5d 193 14 2 0 2 18 10 7 5 3 5c 1 4 0 5b 1 94 f 21 25 a",
      "0 31 3f 20 50 30 0 59 a7 19c1 3f 5901 21 67 2 a6 9 f5 0 a1 0 18c 0 f 1 51d3 1 d1",
      "9 17 22 2 12 2 3 94 0 2 1f 1b 5 1b a b 0 2e 1 41 6 2 6 b 4 103 2 5 2c 4 8 51 c",
      "34 2c e5 1a b9a5 3 f5d f9 7 1b3 9d 73 3d f5 b 26 3 3d 4 10 9 1 8 1d 5 3c d6 13 d",
      "13 d 56 a 18 88 54 2 46 2 1 3 0 3 1 3 3 2 b 2 0 2 6 2 40 2 3 3 7 2 6 2 1b 2 3 2",
      "4 2 0 4 6 2 153 3 123 3 31 1472 43 4d 3c 2c3 2b 5 63 d e 3 e 2 e 2 24 b ad 39 19",
      "2 1 e 2b 5 8 8 1 f 5 9b 3d7 5 10 4 c 4 76 5 5e 7 b 5 0 10 b 5 37 9 9 7 27 9 1d 3",
      "b 5 1 3f 153 d d 3 c 4 9 6 37 8 e 3 a 7 8 8 92 2 65 c0408 0 1f 5f"]),
   (["Coptic", "Copt", "Qaac"],
     ["3e2 d 2891 73 6 6"]),
   (["Cuneiform", "Xsux"],
     ["12000 399 67 6e 2 4 c c3"]),
   (["Cypriot", "Cprt"],
     ["10800 5 3 0 2 2b 2 1 4 0 3 0"]),
   (["Cypro_Minoan", "Cpmn"],
     ["12f90 62"]),
   (["Cyrillic", "Cyrl"],
     ["400 84 3 a8 1751 a a1 0 4d 0 1068 1f 7841 5f 578f 1 e201 3d 22 0"]),
   (["Deseret", "Dsrt"],
     ["10400 4f"]),
   (["Devanagari", "Deva"],
     ["900 50 5 e 3 19 9f61 1f 7201 9"]),
   (["Dives_Akuru", "Diak"],
     ["11900 6 3 0 3 7 2 1 2 1d 2 1 3 b a 9"]),
   (["Dogra", "Dogr"],
     ["11800 3b"]),
   (["Duployan", "Dupl"],
     ["1bc00 6a 6 c 4 8 8 9 3 3"]),
   (["Egyptian_Hieroglyphs", "Egyp"],
     ["13000 455 b f9a"]),
   (["Elbasan", "Elba"],
     ["10500 27"]),
   (["Elymaic", "Elym"],
     ["10fe0 16"]),
   (["Ethiopic", "Ethi"],
     ["1200 48 2 3 3 6 2 0 2 3 3 28 2 3 3 20 2 3 3 6 2 0 2 3 3 e 2 38 2 3 3 42 3 1f 4",
      "19 19e7 16 a 6 2 6 2 6 2 6 2 6 2 6 2 6 2 6 7d23 5 3 5 3 5 a 6 2 6 13cb2 6 2 3 2",
      "1 2 e"]),
   (["Garay", "Gara"],
     ["10d40 25 4 1c 9 1"]),
   (["Georgian", "Geor"],
     ["10a0 25 2 0 6 0 3 2a 2 3 b91 2a 3 2 1041 25 2 0 6 0"]),
   (["Glagolitic", "Glag"],
     ["2c00 5f 1b3a1 6 2 10 3 6 2 1 2 4"]),
   (["Gothic", "Goth"],
     ["10330 1a"]),
   (["Grantha", "Gran"],
     ["11300 3 2 7 3 1 3 15 2 6 2 1 2 4 3 8 3 1 3 2 3 0 7 0 6 6 3 6 4 4"]),
   (["Greek", "Grek"],
     ["370 3 2 2 3 3 2 0 5 0 2 0 2 2 2 0 2 13 2 3e f f 1927 4 33 4 5 4 55 0 141 15 3 5",
      "3 25 3 5 3 7 2 0 2 0 2 0 2 1e 3 34 2 e 2 d 3 5 2 12 3 2 2 8 128 0 8a3f 0 55db 4e",
      "12 0 d060 45"]),
   (["Gujarati", "Gujr"],
     ["a81 2 2 8 2 2 2 15 2 6 2 1 2 4 3 9 2 2 2 2 3 0 10 3 3 b 8 6"]),
   (["Gunjala_Gondi", "Gong"],
     ["11d60 5 2 1 2 24 2 1 2 5 8 9"]),
   (["Gurmukhi", "Guru"],
     ["a01 2 2 5 5 1 3 15 2 6 2 1 2 1 2 1 3 0 2 4 5 1 3 2 4 0 8 3 2 0 8 10"]),
   (["Gurung_Khema", "Gukh"],
     ["16100 39"]),
   (["Han", "Hani"],
     ["2e80 19 2 58 d d5 30 0 2 0 1a 8 f 3 3c5 19bf 41 51ff 5901 16d 3 69 7509 1 d 1",
      "900f a6df 21 1039 7 dd 3 1681 f 1d30 10 26d 9a3 21d 5e3 134a 6 105f"]),
   (["Hangul", "Hang"],
     ["1100 ff 1e2f 1 102 5d 72 1e 42 1e 76e2 1c 284 2ba3 d 16 5 30 27a5 1e 4 5 3 5 3 5",
      "3 2"]),
   (["Hanifi_Rohingya", "Rohg"],
     ["10d00 27 9 9"]),
   (["Hanunoo", "Hano"],
     ["1720 14"]),
   (["Hatran", "Hatr"],
     ["108e0 12 2 1 6 4"]),
   (["Hebrew", "Hebr"],
     ["591 36 9 1a 5 5 f529 19 2 4 2 0 2 1 2 1 2 9"]),
   (["Hiragana", "Hira"],
     ["3041 55 7 2 17f62 11e 13 0 1e 2 40ae 0"]),
   (["Imperial_Aramaic", "Armi"],
     ["10840 15 2 8"]),
   (["Inherited", "Zinh", "Qaai"],
     ["300 6f 116 1 1c5 a 1b 0 2e1 3 115c 1e 202 2 2 c 2 6 5 0 7 0 4 1 c7 3f 20d 1 c3",
      "20 f3a 3 6c 1 cd66 f 11 d 3d0 0 e3 0 105b 0 bbc5 2d 3 16 221 2 12 7 3 6 1f 3",
      "c2f53 ef"]),
   (["Inscriptional_Pahlavi", "Phli"],
     ["10b60 12 6 7"]),
   (["Inscriptional_Parthian", "Prti"],
     ["10b40 15 3 7"]),
   (["Javanese", "Java"],
     ["a980 4d 3 9 5 1"]),
   (["Kaithi", "Kthi"],
     ["11080 42 b 0"]),
   (["Kannada", "Knda"],
     ["c80 c 2 2 2 16 2 9 2 4 3 8 2 2 2 3 8 1 7 1 2 3 3 9 2 2"]),
   (["Katakana", "Kana"],
     ["30a1 59 3 2 f1 f d1 2e 2 57 cc0f 9 2 2c b053 3 2 6 2 1 2 0 120 2 33 0 f 3"]),
   (["Kawi"],
     ["11f00 10 2 28 4 1c"]),
   (["Kayah_Li", "Kali"],
     ["a900 2d 2 0"]),
   (["Kharoshthi", "Khar"],
     ["10a00 3 2 1 6 7 2 2 2 1c 3 2 5 9 8 8"]),
   (["Khitan_Small_Script", "Kits"],
     ["16fe4 0 1b1c 1d5 2a 0"]),
   (["Khmer", "Khmr"],
     ["1780 5d 3 9 7 9 1e7 1f"]),
   (["Khojki", "Khoj"],
     ["11200 11 2 2e"]),
   (["Khudawadi", "Sind"],
     ["112b0 3a 6 9"]),
   (["Kirat_Rai", "Krai"],
     ["16d40 39"]),
   (["Lao", "Laoo"],
     ["e81 1 2 0 2 4 2 17 2 0 2 16 3 4 2 0 2 6 2 9 3 3"]),
   (["Latin", "Latn"],
     ["41 19 7 19 30 0 10 0 6 16 2 1e 2 1c0 28 4 1a1c 25 7 30 6 3 6 c 2 45 42 ff 172 0",
      "e 0 11 c 8e 1 7 0 1c 0 12 28 ad8 1f 7aa3 65 4 42 3 1 2 0 2 7 16 d 331 2a 2 8 2 3",
      "4f97 6 41b 19 7 19 826 5 2 29 2 8 d746 1e 7 5"]),
   (["Lepcha", "Lepc"],
     ["1c00 37 4 e 4 2"]),
   (["Limbu", "Limb"],
     ["1900 1e 2 b 5 b 5 0 4 b"]),
   (["Linear_A", "Lina"],
     ["10600 136 a 15 b 7"]),
   (["Linear_B", "Linb"],
     ["10000 b 2 19 2 12 2 1 2 e 3 d 23 7a"]),
   (["Lisu"],
     ["a4d0 2f 7ab1 0"]),
   (["Lycian", "Lyci"],
     ["10280 1c"]),
   (["Lydian", "Lydi"],
     ["10920 19 6 0"]),
   (["Mahajani", "Mahj"],
     ["11150 26"]),
   (["Makasar", "Maka"],
     ["11ee0 18"]),
   (["Malayalam", "Mlym"],
     ["d00 c 2 2 2 32 2 2 2 5 5 f 3 19"]),
   (["Mandaic", "Mand"],
     ["840 1b 3 0"]),
   (["Manichaean", "Mani"],
     ["10ac0 26 5 b"]),
   (["Marchen", "Marc"],
     ["11c70 1f 3 15 2 d"]),
   (["Masaram_Gondi", "Gonm"],
     ["11d00 6 2 1 2 2b 4 0 2 1 2 8 9 9"]),
   (["Medefaidrin", "Medf"],
     ["16e40 5a"]),
   (["Meetei_Mayek", "Mtei"],
     ["aae0 16 ca 2d 3 9"]),
   (["Mende_Kikakui", "Mend"],
     ["1e800 c4 3 f"]),
   (["Meroitic_Cursive", "Merc"],
     ["109a0 17 5 13 3 2d"]),
   (["Meroitic_Hieroglyphs", "Mero"],
     ["10980 1f"]),
   (["Miao", "Plrd"],
     ["16f00 4a 5 38 8 10"]),
   (["Modi"],
     ["11600 44 c 9"]),
   (["Mongolian", "Mong"],
     ["1800 1 3 0 2 13 7 58 8 2a fdb6 c"]),
   (["Mro", "Mroo"],
     ["16a40 1e 2 9 5 1"]),
   (["Multani", "Mult"],
     ["11280 6 2 0 2 3 2 e 2 a"]),
   (["Myanmar", "Mymr"],
     ["1000 9f 9941 1e 62 1f 6c51 13"]),
   (["Nabataean", "Nbat"],
     ["10880 1e 9 8"]),
   (["Nag_Mundari", "Nagm"],
     ["1e4d0 29"]),
   (["Nandinagari", "Nand"],
     ["119a0 7 3 2d 3 a"]),
   (["New_Tai_Lue", "Talu"],
     ["1980 2b 5 19 7 a 4 1"]),
   (["Newa"],
     ["11400 5b 2 4"]),
   (["Nko", "Nkoo"],
     ["7c0 3a 3 2"]),
   (["Nushu", "Nshu"],
     ["16fe1 0 418f 18b"]),
   (["Nyiakeng_Puachue_Hmong", "Hmnp"],
     ["1e100 2c 4 d 3 9 5 1"]),
   (["Ogham", "Ogam"],
     ["1680 1c"]),
   (["Ol_Chiki", "Olck"],
     ["1c50 2f"]),
   (["Ol_Onal", "Onao"],
     ["1e5d0 2a 5 0"]),
   (["Old_Hungarian", "Hung"],
     ["10c80 32 e 32 8 5"]),
   (["Old_Italic", "Ital"],
     ["10300 23 a 2"]),
   (["Old_North_Arabian", "Narb"],
     ["10a80 1f"]),
   (["Old_Permic", "Perm"],
     ["10350 2a"]),
   (["Old_Persian", "Xpeo"],
     ["103a0 23 5 d"]),
   (["Old_Sogdian", "Sogo"],
     ["10f00 27"]),
   (["Old_South_Arabian", "Sarb"],
     ["10a60 1f"]),
   (["Old_Turkic", "Orkh"],
     ["10c00 48"]),
   (["Old_Uyghur", "Ougr"],
     ["10f70 19"]),
   (["Oriya", "Orya"],
     ["b01 2 2 7 3 1 3 15 2 6 2 1 2 4 3 8 3 1 3 2 8 2 5 1 2 4 3 11"]),
   (["Osage", "Osge"],
     ["104b0 23 5 23"]),
   (["Osmanya", "Osma"],
     ["10480 1d 3 9"]),
   (["Pahawh_Hmong", "Hmng"],
     ["16b00 45 b 9 2 6 2 14 6 12"]),
   (["Palmyrene", "Palm"],
     ["10860 1f"]),
   (["Pau_Cin_Hau", "Pauc"],
     ["11ac0 38"]),
   (["Phags_Pa", "Phag"],
     ["a840 37"]),
   (["Phoenician", "Phnx"],
     ["10900 1b 4 0"]),
   (["Psalter_Pahlavi", "Phlp"],
     ["10b80 11 8 3 d 6"]),
   (["Rejang", "Rjng"],
     ["a930 23 c 0"]),
   (["Runic", "Runr"],
     ["16a0 4a 4 a"]),
   (["Samaritan", "Samr"],
     ["800 2d 3 e"]),
   (["Saurashtra", "Saur"],
     ["a880 45 9 b"]),
   (["Sharada", "Shrd"],
     ["11180 5f"]),
   (["Shavian", "Shaw"],
     ["10450 2f"]),
   (["Siddham", "Sidd"],
     ["11580 35 3 25"]),
   (["SignWriting", "Sgnw"],
     ["1d800 28b 10 4 2 e"]),
   (["Sinhala", "Sinh"],
     ["d81 2 2 11 4 17 2 8 2 0 3 6 4 0 5 5 2 0 2 7 7 9 3 2 103ed 13"]),
   (["Sogdian", "Sogd"],
     ["10f30 29"]),
   (["Sora_Sompeng", "Sora"],
     ["110d0 18 8 9"]),
   (["Soyombo", "Soyo"],
     ["11a50 52"]),
   (["Sundanese", "Sund"],
     ["1b80 3f 101 7"]),
   (["Sunuwar", "Sunu"],
     ["11bc0 21 f 9"]),
   (["Syloti_Nagri", "Sylo"],
     ["a800 2c"]),
   (["Syriac", "Syrc"],
     ["700 d 2 3b 3 2 111 a"]),
   (["Tagalog", "Tglg"],
     ["1700 15 a 0"]),
   (["Tagbanwa", "Tagb"],
     ["1760 c 2 2 2 1"]),
   (["Tai_Le", "Tale"],
     ["1950 1d 3 4"]),
   (["Tai_Tham", "Lana"],
     ["1a20 3e 2 1c 3 a 7 9 7 d"]),
   (["Tai_Viet", "Tavt"],
     ["aa80 42 19 4"]),
   (["Takri", "Takr"],
     ["11680 39 7 9"]),
   (["Tamil", "Taml"],
     ["b82 1 2 5 4 2 2 3 4 1 2 0 2 1 4 1 4 2 4 b 5 4 4 2 2 3 3 0 7 0 f 14 113c6 31 e 0"]),
   (["Tangsa", "Tnsa"],
     ["16a70 4e 2 9"]),
   (["Tangut", "Tang"],
     ["16fe0 0 20 17f7 9 2ff 201 8"]),
   (["Telugu", "Telu"],
     ["c00 c 2 2 2 16 2 f 3 8 2 2 2 3 8 1 2 2 3 0 3 3 3 9 8 8"]),
   (["Thaana", "Thaa"],
     ["780 31"]),
   (["Thai"],
     ["e01 39 6 1b"]),
   (["Tibetan", "Tibt"],
     ["f00 47 2 23 5 26 2 23 2 e 2 6 5 1"]),
   (["Tifinagh", "Tfng"],
     ["2d30 37 8 1 f 0"]),
   (["Tirhuta", "Tirh"],
     ["11480 47 9 9"]),
   (["Todhri", "Todr"],
     ["105c0 33"]),
   (["Toto"],
     ["1e290 1e"]),
   (["Tulu_Tigalari", "Tutg"],
     ["11380 9 2 0 3 0 2 25 2 9 2 0 3 0 2 3 2 9 2 1 9 1"]),
   (["Ugaritic", "Ugar"],
     ["10380 1d 2 0"]),
   (["Vai", "Vaii"],
     ["a500 12b"]),
   (["Vithkuqi", "Vith"],
     ["10570 a 2 e 2 6 2 1 2 a 2 e 2 6 2 1"]),
   (["Wancho", "Wcho"],
     ["1e2c0 39 6 0"]),
   (["Warang_Citi", "Wara"],
     ["118a0 52 d 0"]),
   (["Yezidi", "Yezi"],
     ["10e80 29 2 2 3 1"]),
   (["Yi", "Yiii"],
     ["a000 48c 4 36"]),
   (["Zanabazar_Square", "Zanb"],
     ["11a00 47"])]

end Testbed.Unicode
