import TagRights.Unicode.ScriptTable

namespace TagRights.Unicode

def scriptsLToO : List Script :=
  [⟨["lao", "laoo"], "
      E81-E82 E84 E86-E8A E8C-EA3 EA5 EA7-EBD EC0-EC4 EC6 EC8-ECE ED0-ED9 EDC-EDF", ""⟩,
   ⟨["latin", "latn"], "
      41-5A 61-7A AA BA C0-D6 D8-F6 F8-2B8 2E0-2E4 1D00-1D25 1D2C-1D5C 1D62-1D65 1D6B-1D77
      1D79-1DBE 1E00-1EFF 2071 207F 2090-209C 212A-212B 2132 214E 2160-2188 2C60-2C7F A722-A787
      A78B-A7CD A7D0-A7D1 A7D3 A7D5-A7DC A7F2-A7FF AB30-AB5A AB5C-AB64 AB66-AB69 FB00-FB06
      FF21-FF3A FF41-FF5A 10780-10785 10787-107B0 107B2-107BA 1DF00-1DF1E 1DF25-1DF2A",
      "
      B7 2BC 2C7 2C9-2CB 2CD 2D7 2D9 300-30E 310-311 313 320 323-325 32D-32E 330-331 358 35E
      363-36F 485-486 951-952 10FB 1DF8 202F 20F0 2E17 A700-A707 A92E"⟩,
   ⟨["lepc", "lepcha"], "1C00-1C37 1C3B-1C49 1C4D-1C4F", ""⟩,
   ⟨["limb", "limbu"], "1900-191E 1920-192B 1930-193B 1940 1944-194F", "965"⟩,
   ⟨["lina", "lineara"], "10600-10736 10740-10755 10760-10767", "10107-10133"⟩,
   ⟨["linb", "linearb"], "
      10000-1000B 1000D-10026 10028-1003A 1003C-1003D 1003F-1004D 10050-1005D 10080-100FA",
      "10100-10102 10107-10133 10137-1013F"⟩,
   ⟨["lisu"], "A4D0-A4FF 11FB0", "2BC 2CD 300A-300B"⟩,
   ⟨["lyci", "lycian"], "10280-1029C", "205A"⟩,
   ⟨["lydi", "lydian"], "10920-10939 1093F", "B7 2E31"⟩,
   ⟨["mahajani", "mahj"], "11150-11176", "B7 964-96F A830-A839"⟩,
   ⟨["maka", "makasar"], "11EE0-11EF8", ""⟩,
   ⟨["malayalam", "mlym"], "D00-D0C D0E-D10 D12-D44 D46-D48 D4A-D4F D54-D63 D66-D7F",
      "951-952 964-965 1CDA 1CF2 A830-A832"⟩,
   ⟨["mand", "mandaic"], "840-85B 85E", "640"⟩,
   ⟨["mani", "manichaean"], "10AC0-10AE6 10AEB-10AF6", "640"⟩,
   ⟨["marc", "marchen"], "11C70-11C8F 11C92-11CA7 11CA9-11CB6", ""⟩,
   ⟨["gonm", "masaramgondi"], "
      11D00-11D06 11D08-11D09 11D0B-11D36 11D3A 11D3C-11D3D 11D3F-11D47 11D50-11D59",
      "964-965"⟩,
   ⟨["medefaidrin", "medf"], "16E40-16E9A", ""⟩,
   ⟨["meeteimayek", "mtei"], "AAE0-AAF6 ABC0-ABED ABF0-ABF9", ""⟩,
   ⟨["mend", "mendekikakui"], "1E800-1E8C4 1E8C7-1E8D6", ""⟩,
   ⟨["merc", "meroiticcursive"], "109A0-109B7 109BC-109CF 109D2-109FF", ""⟩,
   ⟨["mero", "meroitichieroglyphs"], "10980-1099F", "205D"⟩,
   ⟨["miao", "plrd"], "16F00-16F4A 16F4F-16F87 16F8F-16F9F", ""⟩,
   ⟨["modi"], "11600-11644 11650-11659", "A830-A839"⟩,
   ⟨["mong", "mongolian"], "1800-1801 1804 1806-1819 1820-1878 1880-18AA 11660-1166C",
      "1802-1803 1805 202F 3001-3002 3008-300B"⟩,
   ⟨["mro", "mroo"], "16A40-16A5E 16A60-16A69 16A6E-16A6F", ""⟩,
   ⟨["mult", "multani"], "11280-11286 11288 1128A-1128D 1128F-1129D 1129F-112A9", "A66-A6F"⟩,
   ⟨["myanmar", "mymr"], "1000-109F A9E0-A9FE AA60-AA7F 116D0-116E3", "A92E"⟩,
   ⟨["nabataean", "nbat"], "10880-1089E 108A7-108AF", ""⟩,
   ⟨["nagm", "nagmundari"], "1E4D0-1E4F9", ""⟩,
   ⟨["nand", "nandinagari"], "119A0-119A7 119AA-119D7 119DA-119E4",
      "964-965 CE6-CEF 1CE9 1CF2 1CFA A830-A835"⟩,
   ⟨["newtailue", "talu"], "1980-19AB 19B0-19C9 19D0-19DA 19DE-19DF", ""⟩,
   ⟨["newa"], "11400-1145B 1145D-11461", ""⟩,
   ⟨["nko", "nkoo"], "7C0-7FA 7FD-7FF", "60C 61B 61F FD3E-FD3F"⟩,
   ⟨["nshu", "nushu"], "16FE1 1B170-1B2FB", ""⟩,
   ⟨["hmnp", "nyiakengpuachuehmong"], "1E100-1E12C 1E130-1E13D 1E140-1E149 1E14E-1E14F", ""⟩,
   ⟨["ogam", "ogham"], "1680-169C", ""⟩,
   ⟨["olchiki", "olck"], "1C50-1C7F", ""⟩,
   ⟨["olonal", "onao"], "1E5D0-1E5FA 1E5FF", "964-965"⟩,
   ⟨["hung", "oldhungarian"], "10C80-10CB2 10CC0-10CF2 10CFA-10CFF", "205A 205D 2E31 2E41"⟩,
   ⟨["ital", "olditalic"], "10300-10323 1032D-1032F", ""⟩,
   ⟨["narb", "oldnortharabian"], "10A80-10A9F", ""⟩,
   ⟨["oldpermic", "perm"], "10350-1037A", "B7 300 306-308 313 483"⟩,
   ⟨["oldpersian", "xpeo"], "103A0-103C3 103C8-103D5", ""⟩,
   ⟨["oldsogdian", "sogo"], "10F00-10F27", ""⟩,
   ⟨["oldsoutharabian", "sarb"], "10A60-10A7F", ""⟩,
   ⟨["oldturkic", "orkh"], "10C00-10C48", "205A 2E30"⟩,
   ⟨["olduyghur", "ougr"], "10F70-10F89", "640 10AF2"⟩,
   ⟨["oriya", "orya"], "
      B01-B03 B05-B0C B0F-B10 B13-B28 B2A-B30 B32-B33 B35-B39 B3C-B44 B47-B48 B4B-B4D B55-B57
      B5C-B5D B5F-B63 B66-B77",
      "951-952 964-965 1CDA 1CF2"⟩,
   ⟨["osage", "osge"], "104B0-104D3 104D8-104FB", "301 304 30B 358"⟩,
   ⟨["osma", "osmanya"], "10480-1049D 104A0-104A9", ""⟩]

def scriptsPToZ : List Script :=
  [⟨["hmng", "pahawhhmong"], "16B00-16B45 16B50-16B59 16B5B-16B61 16B63-16B77 16B7D-16B8F", ""⟩,
   ⟨["palm", "palmyrene"], "10860-1087F", ""⟩,
   ⟨["pauc", "paucinhau"], "11AC0-11AF8", ""⟩,
   ⟨["phag", "phagspa"], "A840-A877", "1802-1803 1805 202F 3002"⟩,
   ⟨["phnx", "phoenician"], "10900-1091B 1091F", ""⟩,
   ⟨["phlp", "psalterpahlavi"], "10B80-10B91 10B99-10B9C 10BA9-10BAF", "640"⟩,
   ⟨["rejang", "rjng"], "A930-A953 A95F", ""⟩,
   ⟨["runic", "runr"], "16A0-16EA 16EE-16F8", "16EB-16ED"⟩,
   ⟨["samaritan", "samr"], "800-82D 830-83E", "2E31"⟩,
   ⟨["saur", "saurashtra"], "A880-A8C5 A8CE-A8D9", ""⟩,
   ⟨["sharada", "shrd"], "11180-111DF", "951 1CD7 1CD9 1CDC-1CDD 1CE0 A830-A835 A838"⟩,
   ⟨["shavian", "shaw"], "10450-1047F", "B7"⟩,
   ⟨["sidd", "siddham"], "11580-115B5 115B8-115DD", ""⟩,
   ⟨["sgnw", "signwriting"], "1D800-1DA8B 1DA9B-1DA9F 1DAA1-1DAAF", ""⟩,
   ⟨["sinh", "sinhala"], "
      D81-D83 D85-D96 D9A-DB1 DB3-DBB DBD DC0-DC6 DCA DCF-DD4 DD6 DD8-DDF DE6-DEF DF2-DF4
      111E1-111F4",
      "964-965 1CF2"⟩,
   ⟨["sogd", "sogdian"], "10F30-10F59", "640"⟩,
   ⟨["sora", "sorasompeng"], "110D0-110E8 110F0-110F9", ""⟩,
   ⟨["soyo", "soyombo"], "11A50-11AA2", ""⟩,
   ⟨["sund", "sundanese"], "1B80-1BBF 1CC0-1CC7", ""⟩,
   ⟨["sunu", "sunuwar"], "11BC0-11BE1 11BF0-11BF9", "300-301 303 30D 310 32D 331"⟩,
   ⟨["sylo", "sylotinagri"], "A800-A82C", "964-965 9E6-9EF"⟩,
   ⟨["syrc", "syriac"], "700-70D 70F-74A 74D-74F 860-86A",
      "303-304 307-308 30A 320 323-325 32D-32E 330 60C 61B-61C 61F 640 64B-655 670 1DF8 1DFA"⟩,
   ⟨["tagalog", "tglg"], "1700-1715 171F", "1735-1736"⟩,
   ⟨["tagb", "tagbanwa"], "1760-176C 176E-1770 1772-1773", "1735-1736"⟩,
   ⟨["taile", "tale"], "1950-196D 1970-1974", "300-301 307-308 30C 1040-1049"⟩,
   ⟨["lana", "taitham"], "1A20-1A5E 1A60-1A7C 1A7F-1A89 1A90-1A99 1AA0-1AAD", ""⟩,
   ⟨["taiviet", "tavt"], "AA80-AAC2 AADB-AADF", ""⟩,
   ⟨["takr", "takri"], "11680-116B9 116C0-116C9", "964-965 A830-A839"⟩,
   ⟨["tamil", "taml"], "
      B82-B83 B85-B8A B8E-B90 B92-B95 B99-B9A B9C B9E-B9F BA3-BA4 BA8-BAA BAE-BB9 BBE-BC2
      BC6-BC8 BCA-BCD BD0 BD7 BE6-BFA 11FC0-11FF1 11FFF",
      "951-952 964-965 1CDA A8F3 11301 11303 1133B-1133C"⟩,
   ⟨["tangsa", "tnsa"], "16A70-16ABE 16AC0-16AC9", ""⟩,
   ⟨["tang", "tangut"], "16FE0 17000-187F7 18800-18AFF 18D00-18D08", "2FF0-2FFF 31EF"⟩,
   ⟨["telu", "telugu"], "
      C00-C0C C0E-C10 C12-C28 C2A-C39 C3C-C44 C46-C48 C4A-C4D C55-C56 C58-C5A C5D C60-C63
      C66-C6F C77-C7F",
      "951-952 964-965 1CDA 1CF2"⟩,
   ⟨["thaa", "thaana"], "780-7B1", "60C 61B-61C 61F 660-669 FDF2 FDFD"⟩,
   ⟨["thai"], "E01-E3A E40-E5B", "2BC 2D7 303 331"⟩,
   ⟨["tibetan", "tibt"], "F00-F47 F49-F6C F71-F97 F99-FBC FBE-FCC FCE-FD4 FD9-FDA", "3008-300B"⟩,
   ⟨["tfng", "tifinagh"], "2D30-2D67 2D6F-2D70 2D7F", "302 304 307 309"⟩,
   ⟨["tirh", "tirhuta"], "11480-114C7 114D0-114D9", "951-952 964-965 1CF2 A830-A839"⟩,
   ⟨["todhri", "todr"], "105C0-105F3", "301 304 307 311 313 35E"⟩,
   ⟨["toto"], "1E290-1E2AE", "2BC"⟩,
   ⟨["tulutigalari", "tutg"], "
      11380-11389 1138B 1138E 11390-113B5 113B7-113C0 113C2 113C5 113C7-113CA 113CC-113D5
      113D7-113D8 113E1-113E2",
      "CE6-CEF 1CF2 1CF4 A830-A835 A8F1"⟩,
   ⟨["ugar", "ugaritic"], "10380-1039D 1039F", ""⟩,
   ⟨["vai", "vaii"], "A500-A62B", ""⟩,
   ⟨["vith", "vithkuqi"], "
      10570-1057A 1057C-1058A 1058C-10592 10594-10595 10597-105A1 105A3-105B1 105B3-105B9
      105BB-105BC", ""⟩,
   ⟨["wancho", "wcho"], "1E2C0-1E2F9 1E2FF", ""⟩,
   ⟨["wara", "warangciti"], "118A0-118F2 118FF", ""⟩,
   ⟨["yezi", "yezidi"], "10E80-10EA9 10EAB-10EAD 10EB0-10EB1", "60C 61B 61F 660-669"⟩,
   ⟨["yi", "yiii"], "A000-A48C A490-A4C6", "3001-3002 3008-3011 3014-301B 30FB FF61-FF65"⟩,
   ⟨["zanabazarsquare", "zanb"], "11A00-11A47", ""⟩]

def scripts : List Script :=
  scriptsAToC ++ scriptsDToK ++ scriptsLToO ++ scriptsPToZ

def scriptNamed? (name : String) : Option Script :=
  scripts.find? (·.names.contains name)

namespace Script

/-- The characters that belong to the script. -/
def members (s : Script) : CharSet := .ofTable s.own

/-- Whether the script stands for characters that are of no writing system in particular. -/
def isGeneral (s : Script) : Bool :=
  s.names.contains "common" || s.names.contains "inherited"

/-- The characters that the script uses. Of those of no writing system in particular, the ones are
left out of which it is known which systems use them. -/
def used (s : Script) : CharSet :=
  if s.isGeneral then s.members.diff (.unionAll (scripts.map fun t => .ofTable t.shared))
  else s.members.union (.ofTable s.shared)

end Script

end TagRights.Unicode
