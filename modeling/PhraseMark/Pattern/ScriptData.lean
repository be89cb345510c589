import PhraseMark.Pattern.PropertyData

/-!
# Scripts of characters

The ranges of the scripts of Unicode, and of the script extensions where these differ.
-/

namespace PhraseMark.Pattern

def scriptData : List PropertyData :=
  [{ names := ["adlm", "adlam"],
      ranges :=
        ["1e900+4b 5+9 5+1"] },
    { names := ["aghb", "caucasianalbanian"],
      ranges :=
        ["10530+33 c"] },
    { names := ["ahom"],
      ranges :=
        ["11700+1a 3+e 5+16"] },
    { names := ["arab", "arabic"],
      ranges :=
        ["600+4 2+5 2+d 2+2 2+1f 2+9 c+19 2+6b 2+21 51+2f f1+21 6+4a 2+1c f251+1ed 3+8f 21+f",
         "71+4 2+86 f64+1e 44+5 9+8 22+5 df01+3 2+1a 2+1 2 3 2+9 2+3 2 2 7 5 2 2 2+2 2+1 2 3 2",
         "2 2 2 2+1 2 3+3 2+6 2+3 2+3 2 2+9 2+10 6+2 2+4 2+10 35+1"] },
    { names := ["armi", "imperialaramaic"],
      ranges :=
        ["10840+15 2+8"] },
    { names := ["armn", "armenian"],
      ranges :=
        ["531+25 3+31 3+2 f584+4"] },
    { names := ["avst", "avestan"],
      ranges :=
        ["10b00+35 4+6"] },
    { names := ["bali", "balinese"],
      ranges :=
        ["1b00+4c 2+31"] },
    { names := ["bamu", "bamum"],
      ranges :=
        ["a6a0+57 c109+238"] },
    { names := ["bass", "bassavah"],
      ranges :=
        ["16ad0+1d 3+5"] },
    { names := ["batk", "batak"],
      ranges :=
        ["1bc0+33 9+3"] },
    { names := ["beng", "bengali"],
      ranges :=
        ["980+3 2+7 3+1 3+15 2+6 2 4+3 3+8 3+1 3+3 9 5+1 2+4 3+18"] },
    { names := ["bhks", "bhaiksuki"],
      ranges :=
        ["11c00+8 2+2c 2+d b+1c"] },
    { names := ["bopo", "bopomofo"],
      ranges :=
        ["2ea+1 2e1a+2a 71+1f"] },
    { names := ["brah", "brahmi"],
      ranges :=
        ["11000+4d 5+23 a"] },
    { names := ["brai", "braille"],
      ranges :=
        ["2800+ff"] },
    { names := ["bugi", "buginese"],
      ranges :=
        ["1a00+1b 3+1"] },
    { names := ["buhd", "buhid"],
      ranges :=
        ["1740+13"] },
    { names := ["cakm", "chakma"],
      ranges :=
        ["11100+34 2+11"] },
    { names := ["cans", "canadianaboriginal"],
      ranges :=
        ["1400+27f 231+45 101bb+f"] },
    { names := ["cari", "carian"],
      ranges :=
        ["102a0+30"] },
    { names := ["cham"],
      ranges :=
        ["aa00+36 a+d 3+9 3+3"] },
    { names := ["cher", "cherokee"],
      ranges :=
        ["13a0+55 3+5 9773+4f"] },
    { names := ["chrs", "chorasmian"],
      ranges :=
        ["10fb0+1b"] },
    { names := ["copt", "coptic", "qaac"],
      ranges :=
        ["3e2+d 2891+73 6+6"] },
    { names := ["cpmn", "cyprominoan"],
      ranges :=
        ["12f90+62"] },
    { names := ["cprt", "cypriot"],
      ranges :=
        ["10800+5 3 2+2b 2+1 4 3"] },
    { names := ["cyrl", "cyrillic"],
      ranges :=
        ["400+84 3+a8 1751+a a1 4d 1068+1f 7841+5f 578f+1 e201+3d 22"] },
    { names := ["deva", "devanagari"],
      ranges :=
        ["900+50 5+e 3+19 9f61+1f 7201+9"] },
    { names := ["diak", "divesakuru"],
      ranges :=
        ["11900+6 3 3+7 2+1 2+1d 2+1 3+b a+9"] },
    { names := ["dogr", "dogra"],
      ranges :=
        ["11800+3b"] },
    { names := ["dsrt", "deseret"],
      ranges :=
        ["10400+4f"] },
    { names := ["dupl", "duployan"],
      ranges :=
        ["1bc00+6a 6+c 4+8 8+9 3+3"] },
    { names := ["egyp", "egyptianhieroglyphs"],
      ranges :=
        ["13000+455 b+f9a"] },
    { names := ["elba", "elbasan"],
      ranges :=
        ["10500+27"] },
    { names := ["elym", "elymaic"],
      ranges :=
        ["10fe0+16"] },
    { names := ["ethi", "ethiopic"],
      ranges :=
        ["1200+48 2+3 3+6 2 2+3 3+28 2+3 3+20 2+3 3+6 2 2+3 3+e 2+38 2+3 3+42 3+1f 4+19",
         "19e7+16 a+6 2+6 2+6 2+6 2+6 2+6 2+6 2+6 7d23+5 3+5 3+5 a+6 2+6 13cb2+6 2+3 2+1 2+e"] },
    { names := ["geor", "georgian"],
      ranges :=
        ["10a0+25 2 6 3+2a 2+3 b91+2a 3+2 1041+25 2 6"] },
    { names := ["glag", "glagolitic"],
      ranges :=
        ["2c00+5f 1b3a1+6 2+10 3+6 2+1 2+4"] },
    { names := ["gong", "gunjalagondi"],
      ranges :=
        ["11d60+5 2+1 2+24 2+1 2+5 8+9"] },
    { names := ["gonm", "masaramgondi"],
      ranges :=
        ["11d00+6 2+1 2+2b 4 2+1 2+8 9+9"] },
    { names := ["goth", "gothic"],
      ranges :=
        ["10330+1a"] },
    { names := ["gran", "grantha"],
      ranges :=
        ["11300+3 2+7 3+1 3+15 2+6 2+1 2+4 3+8 3+1 3+2 3 7 6+6 3+6 4+4"] },
    { names := ["grek", "greek"],
      ranges :=
        ["370+3 2+2 3+3 2 5 2 2+2 2 2+13 2+3e f+f 1927+4 33+4 5+4 55 141+15 3+5 3+25 3+5 3+7 2",
         "2 2 2+1e 3+34 2+e 2+d 3+5 2+12 3+2 2+8 128 8a3f 55db+4e 12 d060+45"] },
    { names := ["gujr", "gujarati"],
      ranges :=
        ["a81+2 2+8 2+2 2+15 2+6 2+1 2+4 3+9 2+2 2+2 3 10+3 3+b 8+6"] },
    { names := ["guru", "gurmukhi"],
      ranges :=
        ["a01+2 2+5 5+1 3+15 2+6 2+1 2+1 2+1 3 2+4 5+1 3+2 4 8+3 2 8+10"] },
    { names := ["hang", "hangul"],
      ranges :=
        ["1100+ff 1e2f+1 102+5d 72+1e 42+1e 76e2+1c 284+2ba3 d+16 5+30 27a5+1e 4+5 3+5 3+5 3+2"] },
    { names := ["hani", "han"],
      ranges :=
        ["2e80+19 2+58 d+d5 30 2 1a+8 f+3 3c5+19bf 41+51ff 5901+16d 3+69 7509+1 d+6 900a+a6df",
         "21+111d 3+168d 3+1d30 10+26d 9a3+21d 5e3+134a 6+2129"] },
    { names := ["hano", "hanunoo"],
      ranges :=
        ["1720+14"] },
    { names := ["hatr", "hatran"],
      ranges :=
        ["108e0+12 2+1 6+4"] },
    { names := ["hebr", "hebrew"],
      ranges :=
        ["591+36 9+1a 5+5 f529+19 2+4 2 2+1 2+1 2+9"] },
    { names := ["hira", "hiragana"],
      ranges :=
        ["3041+55 7+2 17f62+11e 13 1e+2 40ae"] },
    { names := ["hluw", "anatolianhieroglyphs"],
      ranges :=
        ["14400+246"] },
    { names := ["hmng", "pahawhhmong"],
      ranges :=
        ["16b00+45 b+9 2+6 2+14 6+12"] },
    { names := ["hmnp", "nyiakengpuachuehmong"],
      ranges :=
        ["1e100+2c 4+d 3+9 5+1"] },
    { names := ["hung", "oldhungarian"],
      ranges :=
        ["10c80+32 e+32 8+5"] },
    { names := ["ital", "olditalic"],
      ranges :=
        ["10300+23 a+2"] },
    { names := ["java", "javanese"],
      ranges :=
        ["a980+4d 3+9 5+1"] },
    { names := ["kali", "kayahli"],
      ranges :=
        ["a900+2d 2"] },
    { names := ["kana", "katakana"],
      ranges :=
        ["30a1+59 3+2 f1+f d1+2e 2+57 cc0f+9 2+2c b053+3 2+6 2+1 2 120+2 33 f+3"] },
    { names := ["kawi"],
      ranges :=
        ["11f00+10 2+28 4+1c"] },
    { names := ["khar", "kharoshthi"],
      ranges :=
        ["10a00+3 2+1 6+7 2+2 2+1c 3+2 5+9 8+8"] },
    { names := ["khmr", "khmer"],
      ranges :=
        ["1780+5d 3+9 7+9 1e7+1f"] },
    { names := ["khoj", "khojki"],
      ranges :=
        ["11200+11 2+2e"] },
    { names := ["kits", "khitansmallscript"],
      ranges :=
        ["16fe4 1b1c+1d5 2a"] },
    { names := ["knda", "kannada"],
      ranges :=
        ["c80+c 2+2 2+16 2+9 2+4 3+8 2+2 2+3 8+1 6+2 2+3 3+9 2+2"] },
    { names := ["kthi", "kaithi"],
      ranges :=
        ["11080+42 b"] },
    { names := ["lana", "taitham"],
      ranges :=
        ["1a20+3e 2+1c 3+a 7+9 7+d"] },
    { names := ["laoo", "lao"],
      ranges :=
        ["e81+1 2 2+4 2+17 2 2+16 3+4 2 2+6 2+9 3+3"] },
    { names := ["latn", "latin"],
      ranges :=
        ["41+19 7+19 30 10 6+16 2+1e 2+1c0 28+4 1a1c+25 7+30 6+3 6+c 2+45 42+ff 172 e 11+c",
         "8e+1 7 1c 12+28 ad8+1f 7aa3+65 4+51 15+e 331+2a 2+8 2+3 4f97+6 41b+19 7+19 826+5",
         "2+29 2+8 d746+1e 7+5"] },
    { names := ["lepc", "lepcha"],
      ranges :=
        ["1c00+37 4+e 4+2"] },
    { names := ["limb", "limbu"],
      ranges :=
        ["1900+1e 2+b 5+b 5 4+b"] },
    { names := ["lina", "lineara"],
      ranges :=
        ["10600+136 a+15 b+7"] },
    { names := ["linb", "linearb"],
      ranges :=
        ["10000+b 2+19 2+12 2+1 2+e 3+d 23+7a"] },
    { names := ["lisu"],
      ranges :=
        ["a4d0+2f 7ab1"] },
    { names := ["lyci", "lycian"],
      ranges :=
        ["10280+1c"] },
    { names := ["lydi", "lydian"],
      ranges :=
        ["10920+19 6"] },
    { names := ["mahj", "mahajani"],
      ranges :=
        ["11150+26"] },
    { names := ["maka", "makasar"],
      ranges :=
        ["11ee0+18"] },
    { names := ["mand", "mandaic"],
      ranges :=
        ["840+1b 3"] },
    { names := ["mani", "manichaean"],
      ranges :=
        ["10ac0+26 5+b"] },
    { names := ["marc", "marchen"],
      ranges :=
        ["11c70+1f 3+15 2+d"] },
    { names := ["medf", "medefaidrin"],
      ranges :=
        ["16e40+5a"] },
    { names := ["mend", "mendekikakui"],
      ranges :=
        ["1e800+c4 3+f"] },
    { names := ["merc", "meroiticcursive"],
      ranges :=
        ["109a0+17 5+13 3+2d"] },
    { names := ["mero", "meroitichieroglyphs"],
      ranges :=
        ["10980+1f"] },
    { names := ["mlym", "malayalam"],
      ranges :=
        ["d00+c 2+2 2+32 2+2 2+5 5+f 3+19"] },
    { names := ["modi"],
      ranges :=
        ["11600+44 c+9"] },
    { names := ["mong", "mongolian"],
      ranges :=
        ["1800+1 3 2+13 7+58 8+2a fdb6+c"] },
    { names := ["mroo", "mro"],
      ranges :=
        ["16a40+1e 2+9 5+1"] },
    { names := ["mtei", "meeteimayek"],
      ranges :=
        ["aae0+16 ca+2d 3+9"] },
    { names := ["mult", "multani"],
      ranges :=
        ["11280+6 2 2+3 2+e 2+a"] },
    { names := ["mymr", "myanmar"],
      ranges :=
        ["1000+9f 9941+1e 62+1f 6c51+13"] },
    { names := ["nagm", "nagmundari"],
      ranges :=
        ["1e4d0+29"] },
    { names := ["nand", "nandinagari"],
      ranges :=
        ["119a0+7 3+2d 3+a"] },
    { names := ["narb", "oldnortharabian"],
      ranges :=
        ["10a80+1f"] },
    { names := ["nbat", "nabataean"],
      ranges :=
        ["10880+1e 9+8"] },
    { names := ["newa"],
      ranges :=
        ["11400+5b 2+4"] },
    { names := ["nkoo", "nko"],
      ranges :=
        ["7c0+3a 3+2"] },
    { names := ["nshu", "nushu"],
      ranges :=
        ["16fe1 418f+18b"] },
    { names := ["ogam", "ogham"],
      ranges :=
        ["1680+1c"] },
    { names := ["olck", "olchiki"],
      ranges :=
        ["1c50+2f"] },
    { names := ["orkh", "oldturkic"],
      ranges :=
        ["10c00+48"] },
    { names := ["orya", "oriya"],
      ranges :=
        ["b01+2 2+7 3+1 3+15 2+6 2+1 2+4 3+8 3+1 3+2 8+2 5+1 2+4 3+11"] },
    { names := ["osge", "osage"],
      ranges :=
        ["104b0+23 5+23"] },
    { names := ["osma", "osmanya"],
      ranges :=
        ["10480+1d 3+9"] },
    { names := ["ougr", "olduyghur"],
      ranges :=
        ["10f70+19"] },
    { names := ["palm", "palmyrene"],
      ranges :=
        ["10860+1f"] },
    { names := ["pauc", "paucinhau"],
      ranges :=
        ["11ac0+38"] },
    { names := ["perm", "oldpermic"],
      ranges :=
        ["10350+2a"] },
    { names := ["phag", "phagspa"],
      ranges :=
        ["a840+37"] },
    { names := ["phli", "inscriptionalpahlavi"],
      ranges :=
        ["10b60+12 6+7"] },
    { names := ["phlp", "psalterpahlavi"],
      ranges :=
        ["10b80+11 8+3 d+6"] },
    { names := ["phnx", "phoenician"],
      ranges :=
        ["10900+1b 4"] },
    { names := ["plrd", "miao"],
      ranges :=
        ["16f00+4a 5+38 8+10"] },
    { names := ["prti", "inscriptionalparthian"],
      ranges :=
        ["10b40+15 3+7"] },
    { names := ["rjng", "rejang"],
      ranges :=
        ["a930+23 c"] },
    { names := ["rohg", "hanifirohingya"],
      ranges :=
        ["10d00+27 9+9"] },
    { names := ["runr", "runic"],
      ranges :=
        ["16a0+4a 4+a"] },
    { names := ["samr", "samaritan"],
      ranges :=
        ["800+2d 3+e"] },
    { names := ["sarb", "oldsoutharabian"],
      ranges :=
        ["10a60+1f"] },
    { names := ["saur", "saurashtra"],
      ranges :=
        ["a880+45 9+b"] },
    { names := ["sgnw", "signwriting"],
      ranges :=
        ["1d800+28b 10+4 2+e"] },
    { names := ["shaw", "shavian"],
      ranges :=
        ["10450+2f"] },
    { names := ["shrd", "sharada"],
      ranges :=
        ["11180+5f 981+7"] },
    { names := ["sidd", "siddham"],
      ranges :=
        ["11580+35 3+25"] },
    { names := ["sind", "khudawadi"],
      ranges :=
        ["112b0+3a 6+9"] },
    { names := ["sinh", "sinhala"],
      ranges :=
        ["d81+2 2+11 4+17 2+8 2 3+6 4 5+5 2 2+7 7+9 3+2 103ed+13"] },
    { names := ["sogd", "sogdian"],
      ranges :=
        ["10f30+29"] },
    { names := ["sogo", "oldsogdian"],
      ranges :=
        ["10f00+27"] },
    { names := ["sora", "sorasompeng"],
      ranges :=
        ["110d0+18 8+9"] },
    { names := ["soyo", "soyombo"],
      ranges :=
        ["11a50+52"] },
    { names := ["sund", "sundanese"],
      ranges :=
        ["1b80+3f 101+7"] },
    { names := ["sylo", "sylotinagri"],
      ranges :=
        ["a800+2c"] },
    { names := ["syrc", "syriac"],
      ranges :=
        ["700+d 2+3b 3+2 111+a"] },
    { names := ["tagb", "tagbanwa"],
      ranges :=
        ["1760+c 2+2 2+1"] },
    { names := ["takr", "takri"],
      ranges :=
        ["11680+39 7+9"] },
    { names := ["tale", "taile"],
      ranges :=
        ["1950+1d 3+4"] },
    { names := ["talu", "newtailue"],
      ranges :=
        ["1980+2b 5+19 7+a 4+1"] },
    { names := ["taml", "tamil"],
      ranges :=
        ["b82+1 2+5 4+2 2+3 4+1 2 2+1 4+1 4+2 4+b 5+4 4+2 2+3 3 7 f+14 113c6+31 e"] },
    { names := ["tang", "tangut"],
      ranges :=
        ["16fe0 20+1aff 201+1e 62+72"] },
    { names := ["tavt", "taiviet"],
      ranges :=
        ["aa80+42 19+4"] },
    { names := ["telu", "telugu"],
      ranges :=
        ["c00+c 2+2 2+16 2+f 3+8 2+2 2+3 8+1 2+2 2+1 3+3 3+9 8+8"] },
    { names := ["tfng", "tifinagh"],
      ranges :=
        ["2d30+37 8+1 f"] },
    { names := ["tglg", "tagalog"],
      ranges :=
        ["1700+15 a"] },
    { names := ["thaa", "thaana"],
      ranges :=
        ["780+31"] },
    { names := ["thai"],
      ranges :=
        ["e01+39 6+1b"] },
    { names := ["tibt", "tibetan"],
      ranges :=
        ["f00+47 2+23 5+26 2+23 2+e 2+6 5+1"] },
    { names := ["tirh", "tirhuta"],
      ranges :=
        ["11480+47 9+9"] },
    { names := ["tnsa", "tangsa"],
      ranges :=
        ["16a70+4e 2+9"] },
    { names := ["toto"],
      ranges :=
        ["1e290+1e"] },
    { names := ["ugar", "ugaritic"],
      ranges :=
        ["10380+1d 2"] },
    { names := ["vaii", "vai"],
      ranges :=
        ["a500+12b"] },
    { names := ["vith", "vithkuqi"],
      ranges :=
        ["10570+a 2+e 2+6 2+1 2+a 2+e 2+6 2+1"] },
    { names := ["wara", "warangciti"],
      ranges :=
        ["118a0+52 d"] },
    { names := ["wcho", "wancho"],
      ranges :=
        ["1e2c0+39 6"] },
    { names := ["xpeo", "oldpersian"],
      ranges :=
        ["103a0+23 5+d"] },
    { names := ["xsux", "cuneiform"],
      ranges :=
        ["12000+399 67+6e 2+4 c+c3"] },
    { names := ["yezi", "yezidi"],
      ranges :=
        ["10e80+29 2+2 3+1"] },
    { names := ["yiii", "yi"],
      ranges :=
        ["a000+48c 4+36"] },
    { names := ["zanb", "zanabazarsquare"],
      ranges :=
        ["11a00+47"] },
    { names := ["zinh", "inherited", "qaai"],
      ranges :=
        ["300+6f 116+1 1c5+a 1b 2e1+3 115c+2d 3+b 1e5+2 2+c 2+6 5 7 4+1 c7+3f 20d+1 c3+20",
         "f3a+3 6c+1 cd66+f 11+d 3d0 e3 105b bbc5+2d 3+16 221+2 12+7 3+6 1f+3 c2f53+ef"] },
    { names := ["zyyy", "common"],
      ranges :=
        ["0+40 1b+5 1b+2e 2+e 2+4 18 20 1c2+26 6+4 3+13 75 a 7 2 27e 7 f 4 21 9d 205 82+1 4da",
         "196+3 123 5f0+2 48+1 cc+1 2 4ce e 8+3 2+5 2+2 3 306+b 3+56 2+a 4+a 2+e 12+21 3f+25",
         "2+2 3+5 2+1a 2+10 2a+2 5+299 17+a 16+39f 101+273 3+89 201+5d 193+14 2 2+18 10+7 5+3",
         "5c+1 4 5b+1 94+f 21+25 a 31+3f 20+50 30 59+a7 19c1+3f 5901+21 67+2 a6+9 f5 a1 18c",
         "f+1 51d3+1 d1+9 17+22 2+12 2+3 94 2+1f 1b+5 1b+a b 2e+1 41+6 2+6 b+4 103+2 5+2c 4+8",
         "51+c 34+2c e5+1a b9a5+3 f5d+fc 4+1b3 7+16 10+10 60+73 3d+f5 b+26 3+3d 4+10 9+1 8+1d",
         "5+3c d6+13 d+13 d+56 a+18 88+54 2+46 2+1 3 3+1 3+3 2+b 2 2+6 2+40 2+3 3+7 2+6 2+1b",
         "2+3 2+4 2 4+6 2+153 3+123 3+31 1472+43 4d+3c 2c3+2b 5+63 d+e 3+e 2+e 2+24 b+ad 39+19",
         "2+1 e+2b 5+8 8+1 f+5 9b+3d8 4+10 4+c 4+d9 7+b 5 10+b 5+37 9+9 7+27 9+1d 3+b 5+1 f+8",
         "28+157 9+d 3+c 4+a 4+38 2 5+f 3+b 5+9 8+92 2+66 c0407 1f+5f"] },
    { names := ["zzzz", "unknown"],
      ranges :=
        ["378+1 7+3 8 2 15 18e 27+1 33+1 4 38+7 1c+3 7+a 10f 3d+1 66+d 3c+1 32+1 10 1d+1 2 c+4",
         "23+4 ee 9+1 3+1 17 8 2+2 5+1 a+1 3+1 5+7 2+3 3 6+1 1a+1 4 7+3 3+1 17 8 3 3 3+1 2 6+3",
         "3+1 4+2 2+6 5 2+6 12+9 4 a 4 17 8 3 6+1 b 4 4+1 2+e 5+1 d+6 8 4 9+1 3+1 17 8 3 6+1",
         "a+1 3+1 4+6 4+3 3 6+1 13+9 3 7+2 4 5+2 3 2 3+2 3+2 4+2 d+3 6+2 4 5+1 2+5 2+d 16+4 e",
         "4 18 11+1 a 4 5+6 3 4 3+1 5+1 b+6 17 4 18 b 6+1 a 4 5+6 3+4 4 5+1 b 4+b e 4 34 4 7+3",
         "11+1 1b 4 13+2 19 a 2+1 8+2 2+3 7 2 9+5 b+1 4+b 3b+3 1e+24 3 2 6 19 2 18+1 6 2 8 b+1",
         "5+1f 49 25+3 28 25 10 e+24 c7 2+4 2+1 17a 5+1 8 2 5+1 2a 5+1 22 5+1 8 2 5+1 10 3a",
         "5+1 44+1 21+2 1b+5 57+1 7+1 29e+2 5a+6 17+8 19+8 15+b e 4 3+b 5f+1 b+5 b+5 1b+5 5a+6",
         "2c+4 47+9 20 d+3 d+3 2+2 2b+1 6+a 2d+3 1b+5 c+2 3f+1 42 1e+1 c+5 b+5 f+1 2f+1 d+13",
         "4e a7+7 3d+2 10+2 3f+4 2c+1 c+7 2c+4 217+1 7+1 27+1 7+1 9 2 2 2 20+1 36 10 f+1 7",
         "14+1 4 a 66 d+1 1c e+2 23+d 22+e 8d+3 29b+15 c+14 715+1 17f+4 2e 2+4 2+1 39+6 3+d",
         "19+8 8 8 8 8 8 8 8 8 7f+21 1b 5a+b d7+19 51 57+1 68+4 2c 5f 57+8 31 726e+2 38+8",
         "15d+13 b9+7 de+13 3d+2 b+5 39+7 47+7 d+5 75+a 1f+2 4f c+3 22 38+8 f+1 b+1 68+17 1d+9",
         "7+1 7+1 7+8 8 8 3d+3 7f+1 b+5 2ba5+b 18+3 32+3 801+18ff 16f+1 6b+25 8+b 6+4 1b 6 2 3",
         "3 28b+1f 2b+5 34 14 5+3 6 88+1 2 bf+2 7+1 7+1 7+1 4+2 8 8+9 6+1 d 1b 14 3 10+1 f+21",
         "7c+4 4+3 2e+2 59 e+2 2+2e 2f+81 1e+2 32+e 1d+3 25+8 1f+4 2c+4 1f 26+3 f+29 9f+1 b+5",
         "25+3 25+3 29+7 35+a d 10 8 3 c 10 8 3+2 35+b 138+8 17+9 9+17 7 2b a+44 7+1 2 2d 3+2",
         "2+1 18 49+7 a+2f 14 3+4 22+2 1c+4 1c+25 39+3 15+1 33 3+4 9 4 1e+1 4+3 b+6 a+6 41+1f",
         "28+3 d+8 37+2 1e+1 1c+4 1b+6 5+b 8+4f 4a+36 34+c 34+6 2f+7 b+5 27+2 1e+7 3+cf 20 2b",
         "4+1 3+f 7+7 a+20 2f+7 2b+15 1b+25 1d+13 18+8 4f+3 25+8 45+9 2+1 1a+6 b+5 36 13+7",
         "28+8 61 15+a 13 30+3d 8 2 5 10 c+5 3c+4 b+5 5 9+1 3+1 17 8 3 6 b+1 3+1 4+1 2+5 2+4",
         "8+1 8+2 6+a b 2+1 2 27 b 2+1 2 5 b 3+7 3+1c 5d 6+1d 49+7 b+a5 37+1 27+21 46+a b+5",
         "e+12 3b+5 b+5 15+1b 1c+1 10+3 18+b8 3d+63 54+b 9+1 2+1 9 3 1f 3+1 d+8 b+45 9+1 2f+1",
         "c+1a 49+7 54+c 4a+6 b+55 9+57 23+d b+5 a 2e f+9 1e+2 21+1 17 f+48 8 3 2d+2 2 3 a+7",
         "b+5 7 3 26 3 7+6 b+5 2d+3 b+f5 1a+6 12 2a+2 1e+54 2+e 33+c 39c+65 70 6+a c5+a4b 64+c",
         "457+9 f9c+4 248+1ab8 3b+6c5 23a+6 20 b+3 52 b+5 1f+1 7+9 47+9 b 8 16+4 14+1af 3b+c5",
         "5c+4 1a+1 1a+2b 4c+3 3a+6 12+3f 6+a 8+8 1cd7+28 21+60 74+21fc 5 8 3 124+e 2+1c 4+1",
         "2+d 5+7 18d+903 6c+4 e+2 a+6 b+1 9+f5b fe+2 1b5+5 18+e 12+e 2f+1 18+8 75+3b f7+9",
         "28+1 c3+14 47+79 15+b 15+b 58+8 1a+86 56 48 3+1 2+1 3+1 5 d 2 8 42 5+1 9 8 1d 5 6",
         "2+2 8 155+1 125+1 2bf+e 6 10+44f 20+5 7+d4 8 12+1 8 3 6+4 3f+20 2+6f 2e+2 f+1 b+3",
         "3+13f 20+10 3b+4 2+1cf 2b+d5 2c+3 2+bf 20 17+7 3+df 8 5 3 10 c6+1 11+28 4d+3 b+3",
         "3+310 45+4b 3e+c1 5 1c 3 2+1 2 b 5 2 2+5 2+3 2 2 2 4 3 2+1 2 2 2 2 2 3 2+1 5 8 5 5 2",
         "b 12+4 4 6 12+33 3+10d 2d+3 65+b 10+1 10 10 26+9 af+37 1e+c 2d+3 a+6 3+d 7+99 3da+2",
         "12+2 e+2 db+5 d+3 2+e d+3 39+7 b+5 29+7 1f+1 d+3 3+d a+26 159+7 f+1 e+2 c+2 3a 2+3",
         "11+1 d+3 b+6 94 68+404 a6e1+1f 111f+1 168f+1 1d32+e 26f+9a1 21f+5e1 134c+4",
         "212b+acb86 2+1d 61+7f f1+2fe0f"] },
    { names := ["gara", "garay"],
      ranges :=
        ["10d40+25 4+1c 9+1"] },
    { names := ["gukh", "gurungkhema"],
      ranges :=
        ["16100+39"] },
    { names := ["krai", "kiratrai"],
      ranges :=
        ["16d40+39"] },
    { names := ["onao", "olonal"],
      ranges :=
        ["1e5d0+2a 5"] },
    { names := ["sunu", "sunuwar"],
      ranges :=
        ["11bc0+21 f+9"] },
    { names := ["todr", "todhri"],
      ranges :=
        ["105c0+33"] },
    { names := ["tutg", "tulutigalari"],
      ranges :=
        ["11380+9 2 3 2+25 2+9 2 3 2+3 2+9 2+1 9+1"] },
    { names := ["sidt", "sidetic"],
      ranges :=
        ["10940+19"] },
    { names := ["tayo", "taiyo"],
      ranges :=
        ["1e6c0+1e 2+15 9+1"] },
    { names := ["tols", "tolongsiki"],
      ranges :=
        ["11db0+2b 5+9"] },
    { names := ["berf", "beriaerfe"],
      ranges :=
        ["16ea0+18 3+18"] }]

/-- The script extensions that are not the same as the script. -/
def scriptExtensionData : List PropertyData :=
  [{ names := ["adlm", "adlam"],
      ranges :=
        ["61f 21 1a0f df2 1babf+4b 5+9 5+1"] },
    { names := ["aghb", "caucasianalbanian"],
      ranges :=
        ["304 2d 2d 101d2+33 c"] },
    { names := ["arab", "arabic"],
      ranges :=
        ["600+4 2+d6 2+21 51+2f f1+21 6+4a 2+1c 1750 df2 cd0f+27f 21+f 71+4 2+86 3e4+1b b65+1e",
         "44+5 9+8 22+5 df01+3 2+1a 2+1 2 3 2+9 2+3 2 2 7 5 2 2 2+2 2+1 2 3 2 2 2 2 2+1 2 3+3",
         "2+6 2+3 2+3 2 2+9 2+10 6+2 2+4 2+10 35+1"] },
    { names := ["armn", "armenian"],
      ranges :=
        ["308 229+25 3+31 3+2 f584+4"] },
    { names := ["avst", "avestan"],
      ranges :=
        ["b7 2d79+1 dccf+35 4+6"] },
    { names := ["beng", "bengali"],
      ranges :=
        ["2bc 695+1 12+1 1b+3 2+7 3+1 3+15 2+6 2 4+3 3+8 3+1 3+3 9 5+1 2+4 3+18 12d2 2 3+1 2 9",
         "9 3 5 3+2 8bfa"] },
    { names := ["bopo", "bopomofo"],
      ranges :=
        ["2c7 2+2 e 11+1 2d16+2 5+9 2+c b+3 3 7 c4 a+2a 71+1f cc86+1 11b+4"] },
    { names := ["bugi", "buginese"],
      ranges :=
        ["1a00+1b 3+1 8fb0"] },
    { names := ["buhd", "buhid"],
      ranges :=
        ["1735+1 a+13"] },
    { names := ["cakm", "chakma"],
      ranges :=
        ["9e6+9 651+9 100b7+34 2+11"] },
    { names := ["cari", "carian"],
      ranges :=
        ["b7 1fa3 3 dd4 d46f+30"] },
    { names := ["cher", "cherokee"],
      ranges :=
        ["300+2 2 7+1 17+1 c+1 106f+55 3+5 9773+4f"] },
    { names := ["copt", "coptic", "qaac"],
      ranges :=
        ["b7 249 4+1 2 6d+1 6d+d 2891+73 6+6 118 d4c9+1b"] },
    { names := ["cpmn", "cyprominoan"],
      ranges :=
        ["10100+1 2e8f+62"] },
    { names := ["cprt", "cypriot"],
      ranges :=
        ["10100+2 5+2c 4+8 6c1+5 3 2+2b 2+1 4 3"] },
    { names := ["cyrl", "cyrillic"],
      ranges :=
        ["2bc 44+2 2 2 2 3 6 ef+12f 1751+a a1 4d 80 fe8+1f 44 77fd+5f 578f+1 e201+3d 22"] },
    { names := ["deva", "devanagari"],
      ranges :=
        ["2bc 644+52 3+2a 1351+26 2+1 3f7 8740+9 a7+1f 7201+9"] },
    { names := ["dogr", "dogra"],
      ranges :=
        ["964+b 9ec1+9 6fc7+3b"] },
    { names := ["dupl", "duployan"],
      ranges :=
        ["b7 250+1 2 19+1 2b18 18dc4+6a 6+c 4+8 8+9 3+7"] },
    { names := ["elba", "elbasan"],
      ranges :=
        ["b7 24e 101fb+27"] },
    { names := ["ethi", "ethiopic"],
      ranges :=
        ["30e ef2+48 2+3 3+6 2 2+3 3+28 2+3 3+20 2+3 3+6 2 2+3 3+e 2+38 2+3 3+42 3+1f 4+19",
         "19e7+16 a+6 2+6 2+6 2+6 2+6 2+6 2+6 2+6 7d23+5 3+5 3+5 a+6 2+6 13cb2+6 2+3 2+1 2+e"] },
    { names := ["geor", "georgian"],
      ranges :=
        ["b7 4d2 b17+25 2 6 3+2f b91+2a 3+2 39b ca6+25 2 6 104"] },
    { names := ["glag", "glagolitic"],
      ranges :=
        ["b7 24c 2 17f 3 102 b72 f5f ba6+5f 1e4 782c 13991+6 2+10 3+6 2+1 2+4"] },
    { names := ["gong", "gunjalagondi"],
      ranges :=
        ["b7 8ad+1 113fb+5 2+1 2+24 2+1 2+5 8+9"] },
    { names := ["gonm", "masaramgondi"],
      ranges :=
        ["964+1 1139b+6 2+1 2+2b 4 2+1 2+8 9+9"] },
    { names := ["goth", "gothic"],
      ranges :=
        ["b7 24d+1 3 29 ffff+1a"] },
    { names := ["gran", "grantha"],
      ranges :=
        ["951+1 12+1 281+d 10dd 2+1 1f+2 4+1 3f7 f210+3 2+7 3+1 3+15 2+6 2+1 2+4 2+9 3+1 3+2 3",
         "7 6+6 3+6 4+4 c5c+1 2"] },
    { names := ["grek", "greek"],
      ranges :=
        ["b7 249+1 3 2 2 b 2f 3 2b+7 3+3 2 5 2 2+2 2 2+13 2+3e f+f 1927+4 33+4 5+4 55+2 13f+15",
         "3+5 3+25 3+5 3+7 2 2 2 2+1e 3+34 2+e 2+d 3+5 2+12 3+2 2+8 5f c9 8a3f 55db+4e 12",
         "d060+45"] },
    { names := ["gujr", "gujarati"],
      ranges :=
        ["951+1 12+1 11c+2 2+8 2+2 2+15 2+6 2+1 2+4 3+9 2+2 2+2 3 10+3 3+b 8+6 9d31+9"] },
    { names := ["guru", "gurmukhi"],
      ranges :=
        ["951+1 12+1 9c+2 2+5 5+1 3+15 2+6 2+1 2+1 2+1 3 2+4 5+1 3+2 4 8+3 2 8+10 9dba+9"] },
    { names := ["hang", "hangul"],
      ranges :=
        ["1100+ff 1e02+2 5+9 2+c f+2 7 c4 36+5d 72+1e 42+1e 76e2+1c 284+2ba3 d+16 5+30 264a+1",
         "11b+4 3b+1e 4+5 3+5 3+5 3+2"] },
    { names := ["hani", "han"],
      ranges :=
        ["b7 2dc9+19 2+58 d+d5 1b+f 2+2 2+c 2+c 2+c 3 7+8 bc 95+f 21+25 a 31+27 39+30 10+b 34",
         "59+18 b+4 61+1e 2+19bf 41+51ff 701+7 51f9+16d 3+69 36c+1 11b+4 707d+1 d+6 636a+11",
         "1edf+1 daf+a6df 21+111d 3+168d 3+1d30 10+26d 9a3+21d 5e3+134a 6+2129"] },
    { names := ["hano", "hanunoo"],
      ranges :=
        ["1720+16"] },
    { names := ["hebr", "hebrew"],
      ranges :=
        ["307+1 289+36 9+1a 5+5 f529+19 2+4 2 2+1 2+1 2+9"] },
    { names := ["hira", "hiragana"],
      ranges :=
        ["3001+2 5+9 2+c 11+5 2 5+1 4+55 3+7 5b+1 cd49+1 11b+4 b 2e+1 b062+11e 13 1e+2 40ae"] },
    { names := ["hung", "oldhungarian"],
      ranges :=
        ["205a 3 dd4 10 de3f+32 e+32 8+5"] },
    { names := ["java", "javanese"],
      ranges :=
        ["a980+4d 2+a 5+1"] },
    { names := ["kali", "kayahli"],
      ranges :=
        ["a900+2f"] },
    { names := ["kana", "katakana"],
      ranges :=
        ["305 1e 2cde+2 5+9 2+c 11+5 2 5+1 5c+3 4+5f f1+f d1+2e 2+57 caee+1 11b+3e b051+3 2+6",
         "2+1 2 120+2 33 f+3"] },
    { names := ["khoj", "khojki"],
      ranges :=
        ["ae6+9 9d41+9 69c7+11 2+2e"] },
    { names := ["knda", "kannada"],
      ranges :=
        ["951+1 12+1 31b+c 2+2 2+16 2+9 2+4 3+8 2+2 2+3 8+1 6+2 2+3 3+9 2+2 fdd 2+1 7 18 2",
         "8b3c+5"] },
    { names := ["kthi", "kaithi"],
      ranges :=
        ["966+9 24c2 79ff+9 6847+42 b"] },
    { names := ["latn", "latin"],
      ranges :=
        ["41+19 7+19 30 d 3 6+16 2+1e 2+1c0 4 b 2+2 2 a 2 7+4 1c+e 2+1 2 10+2 8+1 2+1 27 6 5+c",
         "116+1 4cb+1 7a9 c05+25 7+30 6+3 6+c 2+45 3a 8+ff 130 42 e 11+c 54 3a+1 7 1c 12+28",
         "ad8+1f 198 78e9+7 1b+65 4+51 15+e 12f 202+2a 2+8 2+3 4f97+6 41b+19 7+19 826+5 2+29",
         "2+8 d746+1e 7+5"] },
    { names := ["limb", "limbu"],
      ranges :=
        ["965 f9b+1e 2+b 5+b 5 4+b"] },
    { names := ["lina", "lineara"],
      ranges :=
        ["10107+2c 4cd+136 a+15 b+7"] },
    { names := ["linb", "linearb"],
      ranges :=
        ["10000+b 2+19 2+12 2+1 2+e 3+d 23+7a 6+2 5+2c 4+8"] },
    { names := ["lisu"],
      ranges :=
        ["2bc 11 2d3d+1 74c5+2f 7ab1"] },
    { names := ["lyci", "lycian"],
      ranges :=
        ["205a e226+1c"] },
    { names := ["lydi", "lydian"],
      ranges :=
        ["b7 2d7a daef+19 6"] },
    { names := ["mahj", "mahajani"],
      ranges :=
        ["b7 8ad+b 9ec1+9 6917+26"] },
    { names := ["mand", "mandaic"],
      ranges :=
        ["640 200+1b 3"] },
    { names := ["mani", "manichaean"],
      ranges :=
        ["640 10480+26 5+b"] },
    { names := ["mero", "meroitichieroglyphs"],
      ranges :=
        ["205d e923+1f"] },
    { names := ["mlym", "malayalam"],
      ranges :=
        ["951+1 12+1 39b+c 2+2 2+32 2+2 2+5 5+f 3+19 f5b 18 8b3e+2"] },
    { names := ["modi"],
      ranges :=
        ["a830+9 6dc7+44 c+9"] },
    { names := ["mong", "mongolian"],
      ranges :=
        ["1800+19 7+58 8+2a 785 fd2+1 6+3 e655+c"] },
    { names := ["mult", "multani"],
      ranges :=
        ["a66+9 10811+6 2 2+3 2+e 2+a"] },
    { names := ["mymr", "myanmar"],
      ranges :=
        ["1000+9f 988f b2+1e 62+1f 6c51+13"] },
    { names := ["nand", "nandinagari"],
      ranges :=
        ["951 13+1 381+9 ffa 9 8 8b36+5 716b+7 3+2d 3+a"] },
    { names := ["newa"],
      ranges :=
        ["951+1 1383 2+1 a 7 2 2 f713+5b 2+4"] },
    { names := ["nkoo", "nko"],
      ranges :=
        ["60c f 4 1a1+3a 3+2 f53f+1"] },
    { names := ["orkh", "oldturkic"],
      ranges :=
        ["205a dd6 ddd0+48"] },
    { names := ["orya", "oriya"],
      ranges :=
        ["951+1 12+1 19c+2 2+7 3+1 3+15 2+6 2+1 2+4 3+8 3+1 3+2 8+2 5+1 2+4 3+11 1163 18"] },
    { names := ["osge", "osage"],
      ranges :=
        ["301 3 7 4d 10158+23 5+23"] },
    { names := ["ougr", "olduyghur"],
      ranges :=
        ["640 104b2 47e+19"] },
    { names := ["perm", "oldpermic"],
      ranges :=
        ["b7 249 6+2 b 170 fecd+2a"] },
    { names := ["phag", "phagspa"],
      ranges :=
        ["1802+1 2 82a fd3 783e+37"] },
    { names := ["phlp", "psalterpahlavi"],
      ranges :=
        ["640 10540+11 8+3 d+6"] },
    { names := ["rohg", "hanifirohingya"],
      ranges :=
        ["60c f 4 21 94 1062c+27 9+9"] },
    { names := ["runr", "runic"],
      ranges :=
        ["16a0+58"] },
    { names := ["samr", "samaritan"],
      ranges :=
        ["800+2d 3+e 25f3"] },
    { names := ["shaw", "shavian"],
      ranges :=
        ["b7 10399+2f"] },
    { names := ["shrd", "sharada"],
      ranges :=
        ["951 1386 2 3+1 3 a 3 8b43+5 3 6948+5f 981+7"] },
    { names := ["sind", "khudawadi"],
      ranges :=
        ["964+1 9ecb+9 6a77+3a 6+9"] },
    { names := ["sinh", "sinhala"],
      ranges :=
        ["964+1 41c+2 2+11 4+17 2+8 2 3+6 4 5+5 2 2+7 7+9 3+2 efe f4ef+13"] },
    { names := ["sogd", "sogdian"],
      ranges :=
        ["640 108f0+29"] },
    { names := ["sylo", "sylotinagri"],
      ranges :=
        ["964+1 81+9 9e11+2c"] },
    { names := ["syrc", "syriac"],
      ranges :=
        ["303+1 3+1 2 19+2 8+1 2+1 2db f+1 3 21 b+a 1b 90+d 2+3b 3+2 111+a 158e 2"] },
    { names := ["tagb", "tagbanwa"],
      ranges :=
        ["1735+1 2a+c 2+2 2+1"] },
    { names := ["takr", "takri"],
      ranges :=
        ["964+1 9ecb+9 6e47+39 7+9"] },
    { names := ["tale", "taile"],
      ranges :=
        ["300+1 6+1 4 d34+9 907+1d 3+4"] },
    { names := ["taml", "tamil"],
      ranges :=
        ["951+1 12+1 21d+1 2+5 4+2 2+3 4+1 2 2+1 4+1 4+2 4+b 5+4 4+2 2+3 3 7 f+14 10e0 8c19",
         "6a0e 2 38+1 c84+31 e"] },
    { names := ["tang", "tangut"],
      ranges :=
        ["2ff0+f 1f0 13df1 20+1aff 201+1e 62+72"] },
    { names := ["telu", "telugu"],
      ranges :=
        ["951+1 12+1 29b+c 2+2 2+16 2+f 3+8 2+2 2+3 8+1 2+2 2+1 3+3 3+9 8+8 1056+1 2 2 18"] },
    { names := ["tfng", "tifinagh"],
      ranges :=
        ["302 2 2+3 1a 2a0d+37 8+1 f"] },
    { names := ["tglg", "tagalog"],
      ranges :=
        ["1700+15 a 16+1"] },
    { names := ["thaa", "thaana"],
      ranges :=
        ["60c f+1 3 41+9 117+31 f641 b"] },
    { names := ["thai"],
      ranges :=
        ["2bc 1b 2c 2e ad0+39 6+1b"] },
    { names := ["tibt", "tibetan"],
      ranges :=
        ["f00+47 2+23 5+26 2+23 2+e 2+6 5+1 202e+3"] },
    { names := ["tirh", "tirhuta"],
      ranges :=
        ["951+1 12+1 1370 d 10 8b3e+9 6c47+47 9+9"] },
    { names := ["toto"],
      ranges :=
        ["2bc 1dfd4+1e"] },
    { names := ["yezi", "yezidi"],
      ranges :=
        ["60c f 4 41+9 10817+29 2+2 3+1"] },
    { names := ["yiii", "yi"],
      ranges :=
        ["3001+1 6+9 3+7 e0 6f05+48c 4+36 5a9b+4"] },
    { names := ["zinh", "inherited", "qaai"],
      ranges :=
        ["30f 3 2+e 4+6 3 3+f 2+1 2+11 2+4 2+3 5f1+1 115c+2d 3+b 2d7+35 2 2+4 20d+1 c3+1f",
         "dd11+f 11+d 3d0 cd03+2d 3+16 221+2 12+7 3+6 1f+3 c2f53+ef"] },
    { names := ["zyyy", "common"],
      ranges :=
        ["0+40 1b+5 1b+2e 2+b 2+1 2+4 18 20 1c2+2 2+9 2 4 2+8 2 2+5 6+4 3+13 7f 7 2 27e d8 205",
         "55d 196+3 1028+b 3+20 2+1e 2+9 2+1 2+6 2+a 4+a 2+e 12+21 3f+25 2+2 3+5 2+1a 2+10",
         "2a+2 5+299 17+a 16+39f 101+273 3+89 201+16 2+17 3+9 2+3 2 2+19 1a3 4 e e 16 212+17",
         "20 32+e d+3 a2+9 6+5f 20 19c1+3f 5909+19 67+2 3d1 f+1 52a5+9 17+14 3+b 2+12 2+3 94",
         "2+1f 1b+5 1b+5 80+6 2+6 b+4 193+c 34+2c ca04+fc 4+1b3 7+16 10+10 60+73 3d+f5 b+26",
         "3+3d 4+10 9+1 8+1d 5+3c d6+13 d+13 d+56 1c+6 88+54 2+46 2+1 3 3+1 3+3 2+b 2 2+6 2+40",
         "2+3 3+7 2+6 2+1b 2+3 2+4 2 4+6 2+153 3+123 3+31 1472+43 4d+3c 2c3+2b 5+63 d+e 3+e",
         "2+e 2+24 b+ad 39+19 2+1 e+2b 5+8 18+5 9b+3d8 4+10 4+c 4+d9 7+b 5 10+b 5+37 9+9 7+27",
         "9+1d 3+b 5+1 f+8 28+157 9+d 3+c 4+a 4+38 2 5+f 3+b 5+9 8+92 2+66 c0407 1f+5f"] },
    { names := ["gara", "garay"],
      ranges :=
        ["60c f 4 10721+25 4+1c 9+1"] },
    { names := ["gukh", "gurungkhema"],
      ranges :=
        ["965 1579b+39"] },
    { names := ["onao", "olonal"],
      ranges :=
        ["964+1 1dc6b+2a 5"] },
    { names := ["sunu", "sunuwar"],
      ranges :=
        ["300+1 2 a 3 1d 4 1188f+21 f+9"] },
    { names := ["todr", "todhri"],
      ranges :=
        ["301 3 3 a 2 4b 10262+33"] },
    { names := ["tutg", "tulutigalari"],
      ranges :=
        ["ce6+9 1003 2 8b3c+5 bc 6a8f+9 2 3 2+25 2+9 2 3 2+3 2+9 2+1 9+1"] }]

end PhraseMark.Pattern
