import Deckwright.Unicode.CharSet

/-!
# Word breaks

The code points of each value other than the default one.
-/

namespace Deckwright.Unicode

/-- Every value that is not the default. -/
def wordBreaks : List NamedSet := [
  ⟨["le", "aletter"],
    "41 19 5 19 2e 0 9 0 3 0 4 16 0 1e 0 1df 5 21 6f 4 0 1 1 3 0 0 5 0 0 2 0 0 0 13 0 52 0 8a " ++
    "7 a5 0 25 1 3 0 0 0 28 0 0 67 0 2b 2a 22 1 0 62 0 0 e 1 6 1 9 2 1 0 f 0 0 1d 1c 58 a 0 " ++
    "17 20 8 1 3 0 4 15 3 0 8 0 2 0 16 18 6 a 4 17 0 5 10 29 39 35 2 0 11 0 6 9 e f 3 7 1 1 1 " ++
    "15 0 6 0 0 2 3 2 0 f 0 c 1 0 2 d 1 9 0 7 5 3 1 1 15 0 6 0 1 0 1 0 1 1e 3 0 0 12 2 f 8 0 " ++
    "2 0 15 0 6 0 1 0 4 2 0 11 0 e 1 16 0 a 7 1 1 1 15 0 6 0 1 0 4 2 0 1d 1 0 2 e 0 10 0 0 5 " ++
    "2 2 0 3 2 1 0 0 0 1 2 1 2 2 2 b 15 0 33 7 0 2 0 16 0 f 2 0 19 2 1 0 1 1 1d 0 3 7 0 2 0 " ++
    "16 0 9 0 4 2 0 1e 1 0 1 e 1 10 8 0 2 0 28 1 0 f 0 4 2 7 2 17 5 4 11 2 17 0 8 0 0 1 6 138 " ++
    "0 3e 7 0 23 1a 4 112 25 0 0 4 0 1 2a 0 14c 0 3 1 6 0 0 0 3 1 28 0 3 1 20 0 3 1 6 0 0 0 3 " ++
    "1 e 0 38 0 3 1 42 24 f f 55 1 5 2 26b 1 10 0 19 4 4a 2 a 6 11 c 12 d 11 d c 0 2 ae 58 6 " ++
    "4 1 21 0 0 4 45 9 1e e0 16 ed 2e 10 7 35 1d c 1 9 2b 19 23 28 2 9 23 1 a 4 2a 1 2 28 3 0 " ++
    "5 0 1 2 0 4 bf 3f 115 1 5 1 25 1 5 1 7 0 0 0 0 0 0 0 1e 1 34 0 6 0 0 2 2 0 6 2 3 1 5 3 c " ++
    "4 2 0 6 73 0 c 0 f c 64 0 3 0 1 9 0 0 2 4 5 0 0 0 0 0 0 3 0 a 1 3 4 4 3 0 10 28 32c 33 " ++
    "715 e4 5 3 2 1 b 25 0 0 4 0 1 37 6 0 f 16 8 6 0 6 0 6 0 6 0 6 0 6 0 6 0 6 4f 0 1d4 0 34 " ++
    "1 c7 2a 0 5d 10 1f 6e3f 48c 42 2d 1 10c 2 f 9 1 13 2e f 1e 1 4f 17 c5 1 1 0 0 0 7 14 f 0 " ++
    "2 0 3 0 16 1c 33 d 31 3d 5 2 0 0 1 a 1b 9 16 18 1c 6 2e 1b 0 2f 28 16 2 0 7 93 a 6 2 b 5 " ++
    "1 5 1 5 8 6 0 6 0 39 5 72 1c 2ba3 b 16 3 30 2303 6 b 4 37 61 20 16a 11 3f 1 35 27 b 73 4 " ++
    "0 86 23 19 5 19 44 1e 2 5 1 5 1 5 1 2 22 b 0 19 0 12 0 1 0 e 1 d 21 7a 44 34 10a 1c 2 30 " ++
    "2e 1f c 1d 4 25 9 1d 1 23 3 7 0 4 29 9d 11 23 3 23 3 27 7 33 b a 0 e 0 6 0 1 0 a 0 e 0 6 " ++
    "0 1 2 33 b 136 8 15 9 7 17 5 0 29 0 8 44 5 1 0 0 2b 0 1 2 0 1 16 9 16 8 1e 40 12 0 1 9 " ++
    "15 9 19 45 37 5 1 3f 0 e 3 0 2 0 1c 29 1c 2 1c 22 7 0 1b 1a 35 9 15 9 12 c 11 6d 48 36 " ++
    "32 c 32 c 23 25 1b 8 16 f9 29 5 1 f 2 3a 1c 9 0 7 15 29 11 2d 14 1a 16 b 34 38 1 1 0 c " ++
    "2c 1f 18 19 23 1c 0 1 0 7 22 2 0 b 2f d 3 14 0 0 0 22 11 0 18 12 1 3e 6 0 0 0 3 0 e 0 9 " ++
    "6 2e 25 7 1 1 1 15 0 6 0 1 0 4 2 0 11 0 b 4 1d 9 0 0 1 0 0 25 0 0 18 0 0 0 2b 34 11 3 13 " ++
    "2 1d 2f 13 1 0 0 b7 2e 28 3 23 2f 13 0 3a 2a c 0 146 2b 73 3f 1e 7 1 0 1 7 0 1 0 17 e 0 " ++
    "0 0 5d 7 1 26 f 0 0 0 1b 0 9 27 6 0 14 0 a 2d 12 0 11 48 c6 20 1e 8 0 24 10 0 30 1d 6f 6 " ++
    "0 1 0 25 14 0 18 5 0 1 0 1f d 0 146 12 e 0 0 c 0 21 7b 0 4e 399 65 6e 10 c3 a4b 60 e 42f " ++
    "10 5 18 f9a 4 246 1ab8 1d 6e1 238 6 1e 10 4e 10 1d 11 2f f 3 1e 14 4 12 1af 2c d2 3f 7f " ++
    "4a 4 0 41 c 3f 1 0 0 1d1a 0 2eff 6a 4 c 2 8 6 9 1765 54 0 46 0 1 1 0 1 1 1 3 0 b 0 0 0 6 " ++
    "0 40 0 3 1 7 0 6 0 1b 0 3 0 4 0 0 2 6 0 153 1 18 0 18 0 1e 0 18 0 1e 0 18 0 1e 0 18 0 1e " ++
    "0 18 0 7 733 1e 5 5 104 3d 91 2c 9 6 f 0 140 1d 11 2b 1e3 1b e3 1d 1 0 1ee 6 0 3 0 1 0 e " ++
    "0 c4 3a 43 6 0 4b3 3 0 1a 0 1 0 0 1 0 0 9 0 3 0 0 0 0 5 0 3 0 0 0 0 0 0 2 0 1 0 0 1 0 0 " ++
    "0 0 0 0 0 0 0 0 1 0 0 1 3 0 6 0 3 0 3 0 0 0 9 0 10 4 2 0 4 0 10 273 19 5 19 5 19"⟩,
  ⟨["cr"],
    "d 0"⟩,
  ⟨["dq", "doublequote"],
    "22 0"⟩,
  ⟨["extend"],
    "300 6f 112 6 106 2c 0 0 0 1 0 1 0 0 47 a 2f 14 f 0 64 6 1 5 1 1 0 3 22 0 1d 1a 5a a 39 8 " ++
    "8 0 17 3 0 8 0 2 0 4 2a 2 3a 8 29 17 0 20 35 2 0 11 0 6 9 1 1c 2 37 0 0 6 1 1 1 2 8 0 9 " ++
    "1 19 0 1 2 37 0 0 4 3 1 1 2 2 0 1d 1 2 0 a 2 37 0 0 7 0 2 0 2 13 1 15 5 0 2 37 0 0 6 1 1 " ++
    "1 2 6 2 9 1 1d 0 3a 4 2 2 0 3 8 0 27 4 36 0 0 6 0 2 0 3 6 1 a 1 1c 2 37 0 0 6 0 2 0 3 6 " ++
    "1 a 1 e 0 b 3 36 1 0 6 0 2 0 3 8 0 9 1 1c 2 45 0 3 5 0 0 0 7 11 1 3c 0 1 6 b 7 61 0 1 8 " ++
    "a 6 48 1 1a 0 0 0 0 0 3 1 30 13 0 1 4 a 0 23 8 0 63 13 16 3 3 2 0 2 1 6 2 3 c b 0 0 9 3 " ++
    "2be 2 3b1 3 1b 2 1c 1 1d 1 3f 1f 8 0 2c 2 0 0 74 1 21 0 75 b 3 b da 4 38 9 0 1c 1 0 2f " ++
    "1e 30 4 2e 10 25 8 b 2 1d c 37 d 2f 13 97 2 0 14 3 0 5 0 1 2 c5 3f 20b 0 c2 20 bfd 2 8c " ++
    "0 5f 1f 229 5 68 1 75d3 3 0 9 1f 1 4f 1 10f 0 2 0 3 0 16 4 3 0 52 1 31 11 19 11 c 0 25 7 " ++
    "18 c 2b 3 2e d 23 0 42 d b 0 7 1 2c 2 31 0 0 2 1 1 4 1 0 0 28 4 4 1 eb 7 0 1 4f2f 0 2e0 " ++
    "f f f 16d 1 25c 0 e1 0 94 4 685 2 0 1 4 3 27 2 3 0 a4 1 23c 3 40 4 13c 1 4e 3 45 a 30 3 " ++
    "79 2 34 e 28 0 1 1 9 3 2c a 6 0 3c 2 23 d f 1 2b 0 b 2 2f d 7 3 0 1 5b b 5 0 1 0 9c b 14 " ++
    "3 36 1 0 6 1 1 1 2 8 0 9 1 1 6 2 4 42 8 0 0 1 0 0 3 0 4 0 0 d 1 51 11 16 0 50 13 ea 6 1 " ++
    "8 1a 1 51 10 69 c 64 e ff e f4 5 0 1 1 3 0 0 0 1 8c 6 1 6 2 0 1b 9 27 6 0 3 7 0 8 a 2d f " ++
    "194 7 0 7 51 15 0 d 79 5 2 0 0 1 0 6 0 0 41 4 0 1 0 4 15a 3 8 1 0 0 2f 6 2 4 16 0 14e4 0 " ++
    "5 e 2cc7 11 9bf 4 3a 6 417 0 0 36 6 3 50 0 a 1 4caa 1 1260 2d 1 16 21d 4 2 5 7 7 1 6 1d " ++
    "3 93 2 7ba 36 3 31 7 0 d 0 15 4 0 e 54f 6 0 10 1 6 0 1 0 4 63 0 9f 6 176 0 3c 3 1fb 3 fd " ++
    "1 2df 6 6c 6 aaf 4 c0c1f 5f 7f ef"⟩,
  ⟨["ex", "extendnumlet"],
    "5f 0 1fce 0 e 1 12 0 dddd 1 17 2 ee 0"⟩,
  ⟨["fo", "format"],
    "ad 0 551 5 15 0 bf 0 30 0 17f 1 4f 0 f2a 0 7fe 1 19 4 30 4 0 9 de8e 0 f8 2 10c0 0 e 0 " ++
    "2361 f 885f 3 14ce 7 c2e85 0"⟩,
  ⟨["hl", "hebrewletter"],
    "5d0 1a 3 3 f529 0 0 9 0 c 0 4 0 0 0 1 0 1 0 9"⟩,
  ⟨["ka", "katakana"],
    "3031 4 64 1 2 5a 0 3 ef f cf 2e 0 57 cc0d 37 b051 3 0 6 0 1 0 0 11e 2 31 0 d 3"⟩,
  ⟨["lf"],
    "a 0"⟩,
  ⟨["ml", "midletter"],
    "3a 0 7b 0 2ce 0 1d6 0 93 0 1a31 0 ddea 0 40 0 c3 0"⟩,
  ⟨["mn", "midnum"],
    "2c 0 d 0 341 0 209 0 81 1 5d 0 18a 0 184a 0 ddca 0 2 0 3a 0 2 0 b6 0 d 0"⟩,
  ⟨["mb", "midnumlet"],
    "2e 0 1fe8 1 9 0 de2c 0 b3 0 5 0"⟩,
  ⟨["nl", "newline"],
    "b 1 77 0 1fa1 1"⟩,
  ⟨["nu", "numeric"],
    "30 9 625 9 0 0 83 9 c5 9 19b 9 75 9 75 9 75 9 75 9 75 9 75 9 75 9 75 9 75 9 5f 9 75 9 45 " ++
    "9 115 9 45 9 745 9 25 9 12b 9 7f 9 a5 9 5 9 b5 9 55 9 85 9 5 9 89c5 9 2a5 9 25 9 c5 9 15 " ++
    "9 55 9 195 9 5315 9 585 9 885 9 5 9 31b 9 7f 9 3b 9 8f 9 115 9 155 9 75 9 175 9 65 9 5 " ++
    "13 4b 9 1a5 9 65 9 295 9 55 9 f5 9 45 9 1a5 9 41d5 9 925 9 55 9 85 9 215 9 5f75 9 ad3 31 " ++
    "93f 9 1a5 9 1f5 9 f6 9 354 9 1295 9"⟩,
  ⟨["ri", "regionalindicator"],
    "1f1e6 19"⟩,
  ⟨["sq", "singlequote"],
    "27 0"⟩,
  ⟨["wsegspace"],
    "9 0 15 0 7e 0 15de 0 97e a 53 0 f9f 0"⟩,
  ⟨["zwj"],
    "200d 0"⟩]

end Deckwright.Unicode
