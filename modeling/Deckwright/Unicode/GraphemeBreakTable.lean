import Deckwright.Unicode.CharSet

/-!
# Grapheme cluster breaks

The code points of each value other than the default one.
-/

namespace Deckwright.Unicode

/-- Every value that is not the default. -/
def graphemeBreaks : List NamedSet := [
  ⟨["cr"],
    "d 0"⟩,
  ⟨["cn", "control"],
    "0 9 0 1 0 11 5e 20 c 0 56d 0 11f0 0 7fb 0 1 1 17 6 30 f de8e 0 ef b 3433 f 885f 3 14ce 7 " ++
    "c2e84 1f 5f 7f ef e0f"⟩,
  ⟨["ex", "extend"],
    "300 6f 112 6 106 2c 0 0 0 1 0 1 0 0 47 a 2f 14 f 0 64 6 1 5 1 1 0 3 22 0 1d 1a 5a a 39 8 " ++
    "8 0 17 3 0 8 0 2 0 4 2a 2 3a 8 29 17 0 1f 36 0 0 0 3 7 3 0 2 6 9 1 1c 0 39 0 0 0 1 3 7 0 " ++
    "8 0 9 1 19 0 1 1 38 0 3 1 3 1 1 2 2 0 1d 1 2 0 a 1 38 0 3 4 0 1 3 0 13 1 15 5 0 0 39 0 0 " ++
    "1 0 3 7 0 6 2 9 1 1d 0 3a 0 0 0 b 0 8 0 27 0 2 0 36 0 0 2 4 2 0 3 6 1 a 1 1c 0 39 0 1 0 " ++
    "1 0 2 0 4 1 6 1 a 1 1b 1 38 1 0 0 1 3 7 0 8 0 9 1 1c 0 47 0 3 0 1 2 0 0 7 0 50 0 1 6 b 7 " ++
    "61 0 1 8 a 6 48 1 1a 0 0 0 0 0 36 d 0 4 0 1 4 a 0 23 8 0 65 3 0 5 0 1 1 1 18 1 3 2 f 3 c " ++
    "0 1 1 5 0 e 0 2be 2 3b1 2 1c 1 1d 1 1d 1 3f 1 0 6 7 0 1 a 8 0 2c 2 0 0 74 1 21 0 75 2 3 " ++
    "1 8 0 5 2 da 1 1 0 39 0 0 6 0 0 0 0 1 7 5 9 1 0 2f 1e 30 3 2f 6 0 0 4 0 27 8 b 1 1f 3 1 " ++
    "1 0 2 37 0 0 1 2 0 0 2 39 7 1 1 97 2 0 c 0 6 3 0 5 0 2 1 c5 3f 20b 0 c2 20 bfd 2 8c 0 5f " ++
    "1f 229 5 68 1 75d3 3 0 9 1f 1 4f 1 10f 0 2 0 3 0 18 1 4 0 96 1 19 11 c 0 25 7 18 a 2d 2 " ++
    "2f 0 1 3 1 1 26 0 42 5 1 1 1 1 b 0 7 0 2e 0 32 0 0 2 1 1 4 1 0 0 29 1 7 0 ed 0 1 0 3 0 " ++
    "4f2f 0 2e0 f f f 16d 1 25c 0 e1 0 94 4 685 2 0 1 4 3 27 2 3 0 a4 1 23c 3 40 4 13c 1 4e 3 " ++
    "45 a 30 3 7a 0 35 e 28 0 1 1 9 2 30 3 1 1 6 0 3c 2 23 4 0 7 3d 0 b 1 33 8 9 3 1 0 5e 2 1 " ++
    "0 0 1 5 0 1 0 9c 0 2 7 14 1 38 1 0 0 0 0 15 0 d 6 2 4 45 5 c 0 0 0 0 0 d 1 54 7 1 2 0 0 " ++
    "16 0 50 0 1 5 0 0 1 0 0 1 0 1 ea 0 1 3 5 1 0 1 1a 1 54 7 1 0 0 1 69 0 0 0 1 5 0 0 64 2 1 " ++
    "3 0 4 102 8 0 1 f4 0 9 1 0 0 3 0 8f 3 1 1 3 0 1f 9 27 5 1 3 7 0 8 5 1 2 2d c 0 1 195 6 0 " ++
    "5 0 0 51 15 1 6 0 1 0 1 79 5 2 0 0 1 0 6 0 0 47 1 2 0 0 0 15a 1 a 1 33 4 4 0 0 0 16 0 " ++
    "14e4 0 5 e 2cc7 b 2 2 9bf 4 3a 6 417 0 3e 3 50 0 4cb7 1 1260 2d 1 16 21d 0 0 2 3 4 7 7 1 " ++
    "6 1d 3 93 2 7ba 36 3 31 7 0 d 0 15 4 0 e 54f 6 0 10 1 6 0 1 0 4 63 0 9f 6 176 0 3c 3 1fb " ++
    "3 fd 1 2df 6 6c 6 aaf 4 c0c1f 5f 7f ef"⟩,
  ⟨["l"],
    "1100 5f 97ff 1c"⟩,
  ⟨["lf"],
    "a 0"⟩,
  ⟨["lv"],
    "ac00 0 1a 0 1a 0 1a 0 1a 0 1a 0 1a 0 1a 0 1a 0 1a 0 1a 0 1a 0 1a 0 1a 0 1a 0 1a 0 1a 0 " ++
    "1a 0 1a 0 1a 0 1a 0 1a 0 1a 0 1a 0 1a 0 1a 0 1a 0 1a 0 1a 0 1a 0 1a 0 1a 0 1a 0 1a 0 1a " ++
    "0 1a 0 1a 0 1a 0 1a 0 1a 0 1a 0 1a 0 1a 0 1a 0 1a 0 1a 0 1a 0 1a 0 1a 0 1a 0 1a 0 1a 0 " ++
    "1a 0 1a 0 1a 0 1a 0 1a 0 1a 0 1a 0 1a 0 1a 0 1a 0 1a 0 1a 0 1a 0 1a 0 1a 0 1a 0 1a 0 1a " ++
    "0 1a 0 1a 0 1a 0 1a 0 1a 0 1a 0 1a 0 1a 0 1a 0 1a 0 1a 0 1a 0 1a 0 1a 0 1a 0 1a 0 1a 0 " ++
    "1a 0 1a 0 1a 0 1a 0 1a 0 1a 0 1a 0 1a 0 1a 0 1a 0 1a 0 1a 0 1a 0 1a 0 1a 0 1a 0 1a 0 1a " ++
    "0 1a 0 1a 0 1a 0 1a 0 1a 0 1a 0 1a 0 1a 0 1a 0 1a 0 1a 0 1a 0 1a 0 1a 0 1a 0 1a 0 1a 0 " ++
    "1a 0 1a 0 1a 0 1a 0 1a 0 1a 0 1a 0 1a 0 1a 0 1a 0 1a 0 1a 0 1a 0 1a 0 1a 0 1a 0 1a 0 1a " ++
    "0 1a 0 1a 0 1a 0 1a 0 1a 0 1a 0 1a 0 1a 0 1a 0 1a 0 1a 0 1a 0 1a 0 1a 0 1a 0 1a 0 1a 0 " ++
    "1a 0 1a 0 1a 0 1a 0 1a 0 1a 0 1a 0 1a 0 1a 0 1a 0 1a 0 1a 0 1a 0 1a 0 1a 0 1a 0 1a 0 1a " ++
    "0 1a 0 1a 0 1a 0 1a 0 1a 0 1a 0 1a 0 1a 0 1a 0 1a 0 1a 0 1a 0 1a 0 1a 0 1a 0 1a 0 1a 0 " ++
    "1a 0 1a 0 1a 0 1a 0 1a 0 1a 0 1a 0 1a 0 1a 0 1a 0 1a 0 1a 0 1a 0 1a 0 1a 0 1a 0 1a 0 1a " ++
    "0 1a 0 1a 0 1a 0 1a 0 1a 0 1a 0 1a 0 1a 0 1a 0 1a 0 1a 0 1a 0 1a 0 1a 0 1a 0 1a 0 1a 0 " ++
    "1a 0 1a 0 1a 0 1a 0 1a 0 1a 0 1a 0 1a 0 1a 0 1a 0 1a 0 1a 0 1a 0 1a 0 1a 0 1a 0 1a 0 1a " ++
    "0 1a 0 1a 0 1a 0 1a 0 1a 0 1a 0 1a 0 1a 0 1a 0 1a 0 1a 0 1a 0 1a 0 1a 0 1a 0 1a 0 1a 0 " ++
    "1a 0 1a 0 1a 0 1a 0 1a 0 1a 0 1a 0 1a 0 1a 0 1a 0 1a 0 1a 0 1a 0 1a 0 1a 0 1a 0 1a 0 1a " ++
    "0 1a 0 1a 0 1a 0 1a 0 1a 0 1a 0 1a 0 1a 0 1a 0 1a 0 1a 0 1a 0 1a 0 1a 0 1a 0 1a 0 1a 0 " ++
    "1a 0 1a 0 1a 0 1a 0 1a 0 1a 0 1a 0 1a 0 1a 0 1a 0 1a 0 1a 0 1a 0 1a 0 1a 0 1a 0 1a 0 1a " ++
    "0 1a 0 1a 0 1a 0 1a 0 1a 0 1a 0 1a 0 1a 0 1a 0 1a 0 1a 0 1a 0 1a 0 1a 0 1a 0 1a 0 1a 0 " ++
    "1a 0 1a 0 1a 0 1a 0 1a 0 1a 0 1a 0 1a 0 1a 0 1a 0 1a 0 1a 0 1a 0 1a 0 1a 0 1a 0 1a 0 1a " ++
    "0 1a 0 1a 0 1a 0 1a 0 1a 0 1a 0 1a 0 1a 0 1a 0 1a 0 1a 0 1a 0 1a 0 1a 0 1a 0 1a 0 1a 0 " ++
    "1a 0 1a 0 1a 0 1a 0 1a 0 1a 0 1a 0 1a 0 1a 0 1a 0 1a 0 1a 0 1a 0 1a 0 1a 0 1a 0 1a 0 1a " ++
    "0 1a 0 1a 0 1a 0 1a 0 1a 0 1a 0 1a 0 1a 0 1a 0 1a 0 1a 0 1a 0 1a 0 1a 0"⟩,
  ⟨["lvt"],
    "ac01 1a 0 1a 0 1a 0 1a 0 1a 0 1a 0 1a 0 1a 0 1a 0 1a 0 1a 0 1a 0 1a 0 1a 0 1a 0 1a 0 1a " ++
    "0 1a 0 1a 0 1a 0 1a 0 1a 0 1a 0 1a 0 1a 0 1a 0 1a 0 1a 0 1a 0 1a 0 1a 0 1a 0 1a 0 1a 0 " ++
    "1a 0 1a 0 1a 0 1a 0 1a 0 1a 0 1a 0 1a 0 1a 0 1a 0 1a 0 1a 0 1a 0 1a 0 1a 0 1a 0 1a 0 1a " ++
    "0 1a 0 1a 0 1a 0 1a 0 1a 0 1a 0 1a 0 1a 0 1a 0 1a 0 1a 0 1a 0 1a 0 1a 0 1a 0 1a 0 1a 0 " ++
    "1a 0 1a 0 1a 0 1a 0 1a 0 1a 0 1a 0 1a 0 1a 0 1a 0 1a 0 1a 0 1a 0 1a 0 1a 0 1a 0 1a 0 1a " ++
    "0 1a 0 1a 0 1a 0 1a 0 1a 0 1a 0 1a 0 1a 0 1a 0 1a 0 1a 0 1a 0 1a 0 1a 0 1a 0 1a 0 1a 0 " ++
    "1a 0 1a 0 1a 0 1a 0 1a 0 1a 0 1a 0 1a 0 1a 0 1a 0 1a 0 1a 0 1a 0 1a 0 1a 0 1a 0 1a 0 1a " ++
    "0 1a 0 1a 0 1a 0 1a 0 1a 0 1a 0 1a 0 1a 0 1a 0 1a 0 1a 0 1a 0 1a 0 1a 0 1a 0 1a 0 1a 0 " ++
    "1a 0 1a 0 1a 0 1a 0 1a 0 1a 0 1a 0 1a 0 1a 0 1a 0 1a 0 1a 0 1a 0 1a 0 1a 0 1a 0 1a 0 1a " ++
    "0 1a 0 1a 0 1a 0 1a 0 1a 0 1a 0 1a 0 1a 0 1a 0 1a 0 1a 0 1a 0 1a 0 1a 0 1a 0 1a 0 1a 0 " ++
    "1a 0 1a 0 1a 0 1a 0 1a 0 1a 0 1a 0 1a 0 1a 0 1a 0 1a 0 1a 0 1a 0 1a 0 1a 0 1a 0 1a 0 1a " ++
    "0 1a 0 1a 0 1a 0 1a 0 1a 0 1a 0 1a 0 1a 0 1a 0 1a 0 1a 0 1a 0 1a 0 1a 0 1a 0 1a 0 1a 0 " ++
    "1a 0 1a 0 1a 0 1a 0 1a 0 1a 0 1a 0 1a 0 1a 0 1a 0 1a 0 1a 0 1a 0 1a 0 1a 0 1a 0 1a 0 1a " ++
    "0 1a 0 1a 0 1a 0 1a 0 1a 0 1a 0 1a 0 1a 0 1a 0 1a 0 1a 0 1a 0 1a 0 1a 0 1a 0 1a 0 1a 0 " ++
    "1a 0 1a 0 1a 0 1a 0 1a 0 1a 0 1a 0 1a 0 1a 0 1a 0 1a 0 1a 0 1a 0 1a 0 1a 0 1a 0 1a 0 1a " ++
    "0 1a 0 1a 0 1a 0 1a 0 1a 0 1a 0 1a 0 1a 0 1a 0 1a 0 1a 0 1a 0 1a 0 1a 0 1a 0 1a 0 1a 0 " ++
    "1a 0 1a 0 1a 0 1a 0 1a 0 1a 0 1a 0 1a 0 1a 0 1a 0 1a 0 1a 0 1a 0 1a 0 1a 0 1a 0 1a 0 1a " ++
    "0 1a 0 1a 0 1a 0 1a 0 1a 0 1a 0 1a 0 1a 0 1a 0 1a 0 1a 0 1a 0 1a 0 1a 0 1a 0 1a 0 1a 0 " ++
    "1a 0 1a 0 1a 0 1a 0 1a 0 1a 0 1a 0 1a 0 1a 0 1a 0 1a 0 1a 0 1a 0 1a 0 1a 0 1a 0 1a 0 1a " ++
    "0 1a 0 1a 0 1a 0 1a 0 1a 0 1a 0 1a 0 1a 0 1a 0 1a 0 1a 0 1a 0 1a 0 1a 0 1a 0 1a 0 1a 0 " ++
    "1a 0 1a 0 1a 0 1a 0 1a 0 1a 0 1a 0 1a 0 1a 0 1a 0 1a 0 1a 0 1a 0 1a 0 1a 0 1a 0 1a 0 1a " ++
    "0 1a 0 1a 0 1a 0 1a 0 1a 0 1a 0 1a 0 1a 0 1a 0 1a 0 1a 0 1a 0 1a 0 1a 0 1a 0 1a 0 1a 0 " ++
    "1a 0 1a 0 1a 0 1a 0 1a 0 1a 0 1a 0 1a 0 1a 0 1a 0 1a 0 1a 0 1a 0 1a 0 1a"⟩,
  ⟨["pp", "prepend"],
    "600 5 d6 0 30 0 17f 1 4f 0 46a 0 1036d 0 e 0 f3 1 77a 0 0 0 f7 0 48 5 2bb 0 1ba 0"⟩,
  ⟨["ri", "regionalindicator"],
    "1f1e6 19"⟩,
  ⟨["sm", "spacingmark"],
    "903 0 36 0 1 2 7 3 0 1 31 1 3a 1 5 1 1 1 35 0 39 2 41 0 39 2 7 0 0 1 34 1 3b 0 5 1 1 1 " ++
    "71 0 0 1 2 2 0 2 33 2 3c 3 3c 1 39 0 0 1 0 1 1 1 0 1 26 0 d 1 3a 1 4 2 0 2 34 1 4b 1 5 6 " ++
    "12 1 3e 0 7e 0 89 1 3e 0 b0 0 8 1 18 1 2b 0 68f 0 1d 0 80 0 6 7 0 1 159 3 1 2 3 1 0 5 df " ++
    "1 39 0 0 0 14 5 90 0 35 0 0 4 0 1 3c 0 1d 0 3 1 1 0 3b 0 1 2 0 0 2 1 2f 7 7 1 aa 0 14 0 " ++
    "8b2a 1 1 0 57 1 31 f 8d 1 2e 0 2f 1 3 1 1 2 6d 1 1 1 17 0 9c 0 1 1 4 0 ec 1 0 1 0 1 0 0 " ++
    "6412 0 0 0 7e 0 2c 2 3 1 72 0 17 1 3a 0 2f 2 8 1 c 0 5c 2 2 1 0 0 a9 2 1e 1 3a 0 0 3 1 1 " ++
    "1 2 13 1 53 2 6 0 1 0 0 3 0 1 0 0 64 2 7 1 2 0 6a 1 5 0 0 1 0 0 1 0 ed 1 5 3 1 0 70 2 7 " ++
    "1 0 0 6c 0 0 1 5 0 6e 0 104 2 8 0 f7 4 0 1 3 0 1 0 0 0 8d 2 7 3 3 0 53 0 1c 1 3d 0 196 0 " ++
    "d 0 69 0 6 0 1 0 d4 4 3 1 0 0 15d 1 b 0 2f 1 7 1 0 0 41e7 2 e23 36 67 1 6173 0 5 0"⟩,
  ⟨["t"],
    "11a8 57 c5ca 30"⟩,
  ⟨["v"],
    "1160 47 c607 16"⟩,
  ⟨["zwj"],
    "200d 0"⟩]

end Deckwright.Unicode
