import Deckwright.Unicode.CharSet

/-!
# Script extensions

The code points used with each script, for the scripts where they are not just the code points
of the script itself.
-/

namespace Deckwright.Unicode

/-- Every script whose extensions differ from its own code points. -/
def scriptExtensions : List NamedSet := [
  ⟨["adlm", "adlam"],
    "61f 0 1f 0 1e2be 4b 3 9 3 1"⟩,
  ⟨["arab", "arabic"],
    "600 4 0 d6 0 21 4f 2f ef 1e 0 1 4 4a 0 1c f24f 72 f 1bc 1 35 6 0 1f f 6f 4 0 86 3e2 1b " ++
    "b63 1e 42 2 36 3 deff 3 0 1a 0 1 0 0 1 0 0 9 0 3 0 0 0 0 5 0 3 0 0 0 0 0 0 2 0 1 0 0 1 0 " ++
    "0 0 0 0 0 0 0 0 0 1 0 0 1 3 0 6 0 3 0 3 0 0 0 9 0 10 4 2 0 4 0 10 33 1"⟩,
  ⟨["beng", "bengali"],
    "951 1 10 1 19 3 0 7 1 1 1 15 0 6 0 0 2 3 1 8 1 1 1 3 7 0 3 1 0 4 1 18 12d0 0 0 0 1 1 0 0 " ++
    "7 0 7 0 1 0 3 0 1 2 8bf8 0"⟩,
  ⟨["bopo", "bopomofo"],
    "2ea 1 2d14 2 3 9 0 c 9 3 1 0 5 0 c2 0 8 2a 6f 1f cc84 1 119 4"⟩,
  ⟨["bugi", "buginese"],
    "1a00 1b 1 1 8fae 0"⟩,
  ⟨["buhd", "buhid"],
    "1735 1 8 13"⟩,
  ⟨["cakm", "chakma"],
    "9e6 9 64f 9 100b5 34 0 11"⟩,
  ⟨["zyyy", "common"],
    "0 40 19 5 19 2e 0 e 0 4 16 0 1e 0 1c0 26 4 4 1 13 73 0 8 0 5 0 0 0 27c 0 d6 0 203 0 55b " ++
    "0 194 3 711 2 911 b 1 20 0 34 0 a 2 a 0 e 10 20 3e 25 0 2 1 5 0 1a 0 10 28 2 3 299 15 a " ++
    "14 39f ff 273 1 1f 0 68 1ff 42 0 19 191 10 2 0 c 0 c 0 14 0 1ac 1 8 0 57 17 1e 0 30 e b " ++
    "3 a0 9 4 5f 1e 0 19bf 3f 5907 19 65 2 3cf 0 d 1 52a3 9 15 14 1 b 0 12 0 3 92 0 0 1f 19 5 " ++
    "19 5 7e 6 0 6 9 4 191 c 32 2c ca02 f9 5 1b3 9b 73 3b f5 9 26 1 3d 2 10 7 1 6 1d 3 3c d4 " ++
    "13 b 13 b 56 1a 6 86 54 0 46 0 1 1 0 1 1 1 3 0 b 0 0 0 6 0 40 0 3 1 7 0 6 0 1b 0 3 0 4 0 " ++
    "0 2 6 0 153 1 123 1 31 1470 43 4b 3c 2c1 2b 3 63 b e 1 e 0 e 0 24 9 ad 37 19 0 1 c 2b 3 " ++
    "8 16 5 99 3d7 3 10 2 c 2 76 3 5e 5 b 3 0 e b 3 37 7 9 5 27 7 1d 1 b 3 1 3d 153 b d 1 c 2 " ++
    "9 4 37 6 e 1 a 5 8 6 92 0 65 c0406 0 1d 5f"⟩,
  ⟨["copt", "coptic", "qaac"],
    "3e2 d 288f 73 4 6 d5df 1b"⟩,
  ⟨["cprt", "cypriot"],
    "10100 2 3 2c 2 8 6bf 5 1 0 0 2b 0 1 2 0 1 0"⟩,
  ⟨["cpmn", "cyprominoan"],
    "10100 1 2e8d 62"⟩,
  ⟨["cyrl", "cyrillic"],
    "400 12f 174f a 9f 0 4b 0 7e 0 fe6 1f 42 0 77fb 5f 578d 1 e1ff 3d 20 0"⟩,
  ⟨["deva", "devanagari"],
    "900 52 1 2a 134f 26 0 1 3f5 0 873e 9 a5 1f 71ff 9"⟩,
  ⟨["dogr", "dogra"],
    "964 b 9ebf 9 6fc5 3b"⟩,
  ⟨["dupl", "duployan"],
    "1bc00 6a 4 c 2 8 6 9 1 7"⟩,
  ⟨["geor", "georgian"],
    "10a0 25 0 0 4 0 1 2f b8f 2a 1 2 103f 25 0 0 4 0"⟩,
  ⟨["glag", "glagolitic"],
    "484 0 1 0 2777 5f 1e2 0 782a 0 1398f 6 0 10 1 6 0 1 0 4"⟩,
  ⟨["gran", "grantha"],
    "951 1 10 1 27f d 10db 0 0 1 1d 2 2 1 3f5 0 f20e 3 0 7 1 1 1 15 0 6 0 1 0 4 0 9 1 1 1 2 1 " ++
    "0 5 0 4 6 1 6 2 4 c5a 1 0 0"⟩,
  ⟨["grek", "greek"],
    "342 0 1 0 29 3 0 2 1 3 0 0 3 0 0 0 0 2 0 0 0 13 0 3e d f 1925 4 31 4 3 4 53 2 13d 15 1 5 " ++
    "1 25 1 5 1 7 0 0 0 0 0 0 0 1e 1 34 0 e 0 d 1 5 0 12 1 2 0 8 126 0 8a3d 0 55d9 4e 10 0 " ++
    "d05e 45"⟩,
  ⟨["gujr", "gujarati"],
    "951 1 10 1 11a 2 0 8 0 2 0 15 0 6 0 1 0 4 1 9 0 2 0 2 1 0 e 3 1 b 6 6 9d2f 9"⟩,
  ⟨["gong", "gunjalagondi"],
    "964 1 113f9 5 0 1 0 24 0 1 0 5 6 9"⟩,
  ⟨["guru", "gurmukhi"],
    "951 1 10 1 9a 2 0 5 3 1 1 15 0 6 0 1 0 1 0 1 1 0 0 4 3 1 1 2 2 0 6 3 0 0 6 10 9db8 9"⟩,
  ⟨["hani", "han"],
    "2e80 19 0 58 b d5 2a 2 0 c 0 c 0 c 1 0 5 8 ba 0 93 f 1f 23 3b 27 37 30 e b 32 0 57 18 9 " ++
    "4 5f 1e 0 19bf 3f 51ff 6ff 7 51f7 16d 1 69 36a 1 119 4 707b 1 b 1 636d 11 1edd 1 dad " ++
    "a6df 1f 1039 5 dd 1 1681 d 1d30 e 26d 9a1 21d 5e1 134a 4 105f"⟩,
  ⟨["hang", "hangul"],
    "1100 ff 1e00 2 3 9 0 c d 2 5 0 c2 0 34 5d 70 1e 40 1e 76e0 1c 282 2ba3 b 16 3 30 2648 1 " ++
    "119 4 39 1e 2 5 1 5 1 5 1 2"⟩,
  ⟨["rohg", "hanifirohingya"],
    "60c 0 d 0 2 0 1f 0 92 0 1062a 27 7 9"⟩,
  ⟨["hano", "hanunoo"],
    "1720 16"⟩,
  ⟨["hira", "hiragana"],
    "3001 2 3 9 0 c f 5 0 0 3 1 2 55 1 7 59 1 cd47 1 119 4 9 0 2c 1 b060 11e 11 0 1c 2 40ac 0"⟩,
  ⟨["zinh", "inherited", "qaai"],
    "300 41 0 1 0 1c 5ef 1 115a 1e 2f2 35 0 0 0 4 20b 1 c1 1f dd0f f f d 3ce 0 cd01 2d 1 16 " ++
    "21f 2 10 7 1 6 1d 3 c2f51 ef"⟩,
  ⟨["java", "javanese"],
    "a980 4d 0 a 3 1"⟩,
  ⟨["kthi", "kaithi"],
    "966 9 9ebf 9 6845 42 9 0"⟩,
  ⟨["knda", "kannada"],
    "951 1 10 1 319 c 0 2 0 16 0 9 0 4 1 8 0 2 0 3 6 1 5 1 0 3 1 9 0 2 fdb 0 0 0 6 0 16 0 0 0 " ++
    "8b3a 5"⟩,
  ⟨["kana", "katakana"],
    "3001 2 3 9 0 c f 5 0 0 3 1 5a 3 2 5f ef f cf 2e 0 57 caec 1 119 3e b04f 3 0 6 0 1 0 0 " ++
    "11e 2 31 0 d 3"⟩,
  ⟨["kali", "kayahli"],
    "a900 2f"⟩,
  ⟨["khoj", "khojki"],
    "ae6 9 9d3f 9 69c5 11 0 2e"⟩,
  ⟨["sind", "khudawadi"],
    "964 1 9ec9 9 6a75 3a 4 9"⟩,
  ⟨["latn", "latin"],
    "41 19 5 19 2e 0 e 0 4 16 0 1e 0 1c0 26 4 7d c 114 1 4c9 1 7a7 0 c03 25 5 30 4 3 4 c 0 45 " ++
    "40 ff 12e 0 40 0 c 0 f c 52 0 38 1 5 0 1a 0 10 28 ad6 1f 7a7f 7 19 65 2 42 1 1 0 0 0 7 " ++
    "14 d 12d 0 200 2a 0 8 0 3 4f95 6 419 19 5 19 824 5 0 29 0 8 d744 1e 5 5"⟩,
  ⟨["limb", "limbu"],
    "965 0 f99 1e 0 b 3 b 3 0 2 b"⟩,
  ⟨["lina", "lineara"],
    "10107 2c 4cb 136 8 15 9 7"⟩,
  ⟨["linb", "linearb"],
    "10000 b 0 19 0 12 0 1 0 e 1 d 21 7a 4 2 3 2c 2 8"⟩,
  ⟨["mahj", "mahajani"],
    "964 b 9ebf 9 6915 26"⟩,
  ⟨["mlym", "malayalam"],
    "951 1 10 1 399 c 0 2 0 32 0 2 0 5 3 f 1 19 f59 0 8b54 2"⟩,
  ⟨["mand", "mandaic"],
    "640 0 1fe 1b 1 0"⟩,
  ⟨["mani", "manichaean"],
    "640 0 1047e 26 3 b"⟩,
  ⟨["gonm", "masaramgondi"],
    "964 1 11399 6 0 1 0 2b 2 0 0 1 0 8 7 9"⟩,
  ⟨["modi"],
    "a830 9 6dc5 44 a 9"⟩,
  ⟨["mong", "mongolian"],
    "1800 19 5 58 6 2a 783 0 f62f c"⟩,
  ⟨["mult", "multani"],
    "a66 9 1080f 6 0 0 0 3 0 e 0 a"⟩,
  ⟨["mymr", "myanmar"],
    "1000 9f 988d 0 b0 1e 60 1f 6c4f 13"⟩,
  ⟨["nand", "nandinagari"],
    "964 1 37f 9 ff8 0 7 0 6 0 8b34 5 7169 7 1 2d 1 a"⟩,
  ⟨["nkoo", "nko"],
    "60c 0 d 0 2 0 19f 3a 1 2 f53d 1"⟩,
  ⟨["perm", "oldpermic"],
    "483 0 fecb 2a"⟩,
  ⟨["ougr", "olduyghur"],
    "640 0 104b0 0 47c 19"⟩,
  ⟨["orya", "oriya"],
    "951 1 10 1 19a 2 0 7 1 1 1 15 0 6 0 1 0 4 1 8 1 1 1 2 6 2 3 1 0 4 1 11 1161 0 16 0"⟩,
  ⟨["phag", "phagspa"],
    "1802 1 0 0 9039 37"⟩,
  ⟨["phlp", "psalterpahlavi"],
    "640 0 1053e 11 6 3 b 6"⟩,
  ⟨["shrd", "sharada"],
    "951 0 1384 0 0 0 1 1 1 0 f49e 5f"⟩,
  ⟨["sinh", "sinhala"],
    "964 1 41a 2 0 11 2 17 0 8 0 0 1 6 2 0 3 5 0 0 0 7 5 9 1 2 103eb 13"⟩,
  ⟨["sogd", "sogdian"],
    "640 0 108ee 29"⟩,
  ⟨["sylo", "sylotinagri"],
    "964 1 7f 9 9e0f 2c"⟩,
  ⟨["syrc", "syriac"],
    "60c 0 d 1 1 0 1f 0 9 a 19 0 8e d 0 3b 1 2 10f a 158c 0 0 0"⟩,
  ⟨["tglg", "tagalog"],
    "1700 15 8 0 14 1"⟩,
  ⟨["tagb", "tagbanwa"],
    "1735 1 28 c 0 2 0 1"⟩,
  ⟨["tale", "taile"],
    "1040 9 905 1d 1 4"⟩,
  ⟨["takr", "takri"],
    "964 1 9ec9 9 6e45 39 5 9"⟩,
  ⟨["taml", "tamil"],
    "951 1 10 1 21b 1 0 5 2 2 0 3 2 1 0 0 0 1 2 1 2 2 2 b 3 4 2 2 0 3 1 0 5 0 d 14 10de 0 " ++
    "8c17 0 6a0c 0 0 0 36 1 c82 31 c 0"⟩,
  ⟨["telu", "telugu"],
    "951 1 10 1 299 c 0 2 0 16 0 f 1 8 0 2 0 3 6 1 0 2 1 0 1 3 1 9 6 8 1059 0 16 0"⟩,
  ⟨["thaa", "thaana"],
    "60c 0 d 1 1 0 3f 9 115 31 f63f 0 9 0"⟩,
  ⟨["tirh", "tirhuta"],
    "951 1 10 1 138b 0 8b3c 9 6c45 47 7 9"⟩,
  ⟨["yezi", "yezidi"],
    "60c 0 d 0 2 0 3f 9 10815 29 0 2 1 1"⟩,
  ⟨["yiii", "yi"],
    "3001 1 4 9 1 7 de 0 6f03 48c 2 36 5a99 4"⟩]

end Deckwright.Unicode
