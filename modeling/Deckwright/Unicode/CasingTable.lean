/-!
# Neighbours of a final sigma

The two properties that decide which form a small sigma takes, in run form.
-/

namespace Deckwright.Unicode

/-- Characters with the Case_Ignorable property. -/
def caseIgnorableRuns : String :=
  "27 0 5 0 a 0 22 0 0 0 46 0 3 0 0 0 3 0 1 1 1f6 bf 3 1 3 0 8 1 0 0 fa 6 ce 0 4 0 30 2c 0 " ++
    "0 0 1 0 1 0 0 2b 0 a 5 9 a 0 0 22 0 9 14 f 0 64 7 0 9 0 3 20 0 0 0 1d 1a 5a a 39 a 3 0 1 " ++
    "0 17 17 2a 2 2b 0 6 1 4 8 28 39 36 0 0 0 3 7 3 0 2 6 9 1 c 0 e 0 39 0 3 3 7 0 13 1 19 0 " ++
    "1 1 38 0 3 1 3 1 1 2 2 0 1d 1 2 0 a 1 38 0 3 4 0 1 3 0 13 1 15 5 0 0 39 0 1 0 0 3 7 0 6 " ++
    "1 a 1 1d 0 3c 0 b 0 31 0 2 0 36 0 0 2 4 2 0 3 6 1 a 1 1c 0 39 0 1 0 5 0 4 1 13 1 1b 1 38 " ++
    "1 3 3 7 0 13 1 1c 0 47 0 6 2 0 0 59 0 1 6 a 8 61 0 1 8 8 0 0 6 48 1 1a 0 0 0 0 0 36 d 0 " ++
    "4 0 1 4 a 0 23 8 0 65 3 0 5 0 1 1 1 18 1 3 2 f 3 c 0 1 1 5 0 e 0 5d 0 25f 2 3b1 2 1c 1 " ++
    "1d 1 1d 1 3f 1 0 6 7 0 1 a 2 0 4 0 2c 4 32 0 40 1 21 0 75 2 3 1 8 0 5 2 da 1 1 0 39 0 0 " ++
    "6 0 0 0 0 1 7 5 9 1 0 26 0 7 1e 30 3 2f 0 0 4 0 0 4 0 27 8 b 1 1f 3 1 1 0 2 37 0 0 1 2 0 " ++
    "0 2 39 7 1 1 3f 5 51 2 0 c 0 6 3 0 5 0 2 1 31 3e c 0 21 64 1bc 0 0 2 a 2 c 2 c 2 c 1 b 4 " ++
    "7 1 9 0 1 0 1 4 30 4 0 9 0 0 c 0 f c 32 20 b8a 1 70 2 7c 0 e 0 5f 1f 2e 0 1d4 0 23 3 2 4 " ++
    "4 0 5c 5 5c 2 6f15 0 4e1 5 10d 0 61 3 0 9 0 0 1b 3 4f 1 d 21 4d 0 16 2 66 2 2 1 7 0 2 0 " ++
    "3 0 18 1 4 0 96 1 19 11 c 0 25 7 18 a 2d 2 2f 0 1 3 1 1 10 0 14 1 41 5 1 1 1 1 b 0 7 0 " ++
    "22 0 a 0 32 0 0 2 1 1 4 1 0 0 1a 0 d 1 4 1 0 0 63 4 8 2 78 0 1 0 3 0 4f2f 0 92 10 23c f " ++
    "2 0 b f 21 0 1 0 a8 0 6 0 5 0 a 0 22 0 0 0 2e 0 2c 1 42 0 14 2 200 0 e1 0 94 4 404 5 0 " ++
    "29 0 8 245 2 0 1 4 3 27 2 3 0 a4 1 23c 3 25 0 19 4 0 0 13a 1 4e 3 45 a 30 3 7a 0 35 e 28 " ++
    "0 1 1 9 2 30 3 1 1 1 0 3 0 9 0 31 2 23 4 0 7 3d 0 b 1 33 8 9 3 1 0 5e 2 1 0 0 1 5 0 1 0 " ++
    "9c 0 2 7 14 1 38 1 2 0 24 6 2 4 45 5 c 0 0 0 0 0 d 1 54 7 1 2 0 0 16 0 53 5 0 0 3 1 0 1 " ++
    "ed 3 5 1 0 1 1a 1 54 7 1 0 0 1 69 0 0 0 1 5 0 0 64 2 1 3 0 4 102 8 0 1 ff 1 0 0 3 0 8f 3 " ++
    "1 1 3 0 1f 9 27 5 1 3 7 0 8 5 1 2 2d c 0 1 195 6 0 5 0 0 51 15 1 6 0 1 0 1 79 5 2 0 0 1 " ++
    "0 6 0 0 47 1 2 0 0 0 15a 1 a 1 33 4 4 0 0 0 16 0 14d4 10 5 e 2cc7 b 2 2 9bf 4 3a 6 8 3 " ++
    "1fb 2 27 1 1e1 0 3e 10 3f 1 0 1 400a 3 0 6 0 1 c9d 1 0 3 125b 2d 1 16 21f 2 8 f 1 6 1d 3 " ++
    "93 2 7ba 36 3 31 7 0 d 0 15 4 0 e 54f 6 0 10 1 6 0 1 0 4 4 3d 20 0 9f d 16f 0 3c 3 1fa 4 " ++
    "fd 1 2df 6 6c 7 aae 4 c0c00 0 1d 5f 7f ef"

/-- Characters with the Cased property. -/
def casedRuns : String :=
  "41 19 5 19 2e 0 9 0 3 0 4 16 0 1e 0 c2 0 3 3 cf 0 23 6 1 1d 4 5f 0 29 3 1 1 1 3 0 0 5 0 " ++
    "0 2 0 0 0 13 0 52 0 8a 7 a5 0 25 8 28 b16 25 0 0 4 0 1 2a 0 3 29f 55 1 5 881 a 4 2a 1 2 " ++
    "3f bf 3f 115 1 5 1 25 1 5 1 7 0 0 0 0 0 0 0 1e 1 34 0 6 0 0 2 2 0 6 2 3 1 5 3 c 4 2 0 6 " ++
    "73 0 c 0 f c 64 0 3 0 1 9 0 0 2 4 5 0 0 0 0 0 0 3 0 5 3 0 1 3 4 4 3 0 10 1f 2 1 330 33 " ++
    "715 e4 5 3 2 1 b 25 0 0 4 0 7911 2d 11 1d 83 65 2 3 0 3d 1 1 0 0 0 7 14 4 0 2 334 2a 0 d " ++
    "5 4f 4f3f 6 b 4 408 19 5 19 4a4 4f 5f 23 3 23 73 a 0 e 0 6 0 1 0 a 0 e 0 6 0 1 1c2 0 1 2 " ++
    "0 29 0 8 4c4 32 c 32 5c 15 9 15 b19 3f 555f 3f 657f 54 0 46 0 1 1 0 1 1 1 3 0 b 0 0 0 6 " ++
    "0 40 0 3 1 7 0 6 0 1b 0 3 0 4 0 0 2 6 0 153 1 18 0 18 0 1e 0 18 0 1e 0 18 0 1e 0 18 0 1e " ++
    "0 18 0 7 733 9 0 13 5 5 104 3d 891 43 7eb 19 5 19 5 19"

end Deckwright.Unicode
