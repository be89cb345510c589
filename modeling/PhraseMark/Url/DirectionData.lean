/-!
# Directions of characters

The bidirectional classes of the characters that names keep. All others run from left to right.
-/

namespace PhraseMark.Url

def rightRanges : List String :=
  ["5be 2 3 3 a+1a 5+5 1cc+2a a+1 5 4+17 5 a 4 8+e 2+18 6 ffa2+5 3 2+2b 2+1 4 3+16 2+47 9+8",
   "31+12 2+1 6+20 5+19 6+1a 27+37 5+13 3+2e 10+3 2+2 2+1c b+8 8+8 8+3f 21+24 7+b a+35 b+15 3+1a",
   "6+19 8+3 d+6 51+48 78+32 8+5 41+f 1f+17 9+1 f1+29 4 3+1 4f+27 49+11 5+3 27+1b 15+16 d80a+c4",
   "3+8 53+21 8 5+9 5+1"]

def arabicLetterRanges : List String :=
  ["608 3 2 e 2+2d 23+2 2+3 5+5c 10+1 8+1 b+13 3 2+1d 1e+58 c af+a 6+1f 11+29 f2e9+20 1be+1 37+6",
   "a5 e8d+23 19f+5 9+8 24 34+15 c+8 dd18+43 4d+3c"]

def arabicNumberRanges : List String :=
  ["660+9 2+1 106c4+9 127+1e"]

def europeanNumberRanges : List String :=
  ["30+9 6b7+9 fbe8+1a"]

def europeanSeparatorRanges : List String :=
  ["2b 2 21e5"]

def commonSeparatorRanges : List String :=
  ["2c 2+1 b 5d2 1a38"]

def europeanTerminatorRanges : List String :=
  ["23+2 7d+3 b+1 4de 7a+1 60 388+1 8 f6 108 246 99c 855+2 6e+7 2+18 6d e5 8625+1 77a4+3 c31f"]

/-- Marks that take the direction of the character before. -/
def markRanges : List String :=
  ["300+3f 3 4+8 2+1f 114+6 108+2c 2 2+1 2+1 2 49+a 31+14 11 66+6 3+5 3+1 2+3 24 1f+1a 5c+a 3b+8",
   "a 19+3 2+8 2+2 2+4 2c+2 3c+8 2b+17 2+1f 38 2 5+7 5 4+6 b+1 1e 3b 5+3 9 15+1 1b 3+1 3a 5+1",
   "5+1 3+2 4 1f+1 4 c+1 3a 5+4 2+1 5 15+1 17+5 2 3b 3 2+3 9 8+1 c+1 1f 3e d 33 4 38 2+2 6+2 2+3",
   "8+1 c+1 1e 3b 10+1 15+1 1d+1 3a+1 5+3 9 15+1 1e 49 8+2 2 5b 3+6 d+7 63 3+8 c+6 4a+1 1c 2 2",
   "38+1 2 6+4 2 2+2 2+1 6+5 2+3 2+3 2+3 2+3 2+3 2+b 2+2 a 67+3 2+5 2+1 3+1 1a+1 5+2 11+3 e 3+1",
   "7 10 2c0+2 3b3+2 1e+1 1f+1 1f+1 44+6 9 3+a a a8+1 23 77+2 5+1 a 7+2 dc+1 3 3b 2+6 2 2 3+7",
   "7+9 3 31+2d 3+b 15+3 31 2+4 2 6 29+8 d+1 21+3 3+1 2+2 39 2+1 4 2+2 3b+7 3+1 99+2 2+c 2+6 5 7",
   "4+1 c7+3f 2d1+20 bff+2 8e 61+1f 22b+3 6c+1 75d5+3 2+9 21+1 51+1 111 4 5 1a+1 6 98+1 1b+11 e",
   "27+7 1a+a 2f+2 31 3+3 3+1 28 44+5 3+1 3+1 d 9 30 34 2+2 3+1 6+1 2 2b+1 9 ef 3 5 4f31 302+f",
   "3ce e3 96+4 687+2 2+1 6+3 29+2 5 a6+1 23e+3 42+4 13e+1 4e+1 2+2 47+a 32+3 7c 37+e 2a 3+1 b+2",
   "32+3 3+1 8 3e+2 25+4 2+7 3f d+1 35+8 b+3 3 60+2 3 2+1 7 3 9e 4+7 16+1 3a+1 4 26+6 4+4 c4+7",
   "3+2 2 18 55+5 2 5+1 2+1 ef+3 7+1 2+1 1c+1 56+7 3 2+1 6b 2 3+5 2 66+2 3+3 2+4 104+8 2+1 101+1",
   "2 5 91+3 3+1 5 21+5 3+1 29+5 3+3 9 a+5 3+2 2f+c 2+1 197+6 2+5 55+15 3+6 2+1 2+1 7b+5 4 2+1",
   "2+6 2 49+1 4 2 15c+1 c+1 35+4 6 2 14fe 7+e 369b+4 3c+6 419 40+3 52 4cb9+1 1262+2d 3+16 221+2",
   "12+7 3+6 1f+3 95+2 7bc+36 5+31 9 f 17+4 2+e 551+6 2+10 3+6 2+1 2+4 65 a1+6 178 3e+3 1fd+3",
   "ff+1 f4 3 8+1 6 1db+6 6e+6"]

def neutralBoundaryRanges : List String :=
  ["0+8 6+d 64 1f8d+1"]

def neutralRanges : List String :=
  ["21+1 4+4 11+5 1b+5 1b+3 23 5+1 2 2+1 2 8+1 4 4 18 20 1c2+1 8+d 3+5 7+1 6+8 2+10 76 81 194",
   "3+1 78+1 7+1 cf b 10d+3 3fa+5 2 7e+6 2bc+3 453+9 67 29b+1 154+9 7+a 136 4+1 99+21 611 2+4",
   "2+b 4 e 3+3 2 2+4 2+1 4+c 2+6 a6 4 c 3+1 6+1 4 2 2 2 11 7+3 6+3 3d+1 5+81 3+17 3 3+f7 3+a",
   "46+19 2+90 1a+a a1+1c0 2+152 101+10b 2+66 4+64 2+96 3+1f 2+68 e6+5 f+6 101+5d 23+19 2+3 2+52",
   "10f 2+1 4+18 10 7 6+2 61 5b c5+23 1bdd+3f 5691+36 147+2 64 b+1 81+21 67 a0+3 49+3 2f3+1",
   "51d3+11 80 2e+2 46+1 2bb 3f+4c 4+c 4 77f 21a+6 513+13 5fb+c 969+7 5+10 4ff1 6207+1 16+41 4",
   "bb+56 1b9a+1 10f+2b 5+63 d+e 3+e 2+e 2+24 16+4 20 3e+2 3e b3+5 9b+3d7 5+10 4+c 4+76 5+5e 7+b",
   "5 10+b 5+37 9+9 7+27 9+1d 3+1 4f+153 d+d 3+c 4+8 8+2d 2+6 9+d 5+8 8+8 8+92 2+36"]

end PhraseMark.Url
