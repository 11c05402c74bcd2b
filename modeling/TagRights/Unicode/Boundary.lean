import TagRights.Unicode.Category
import TagRights.Unicode.Grapheme

namespace TagRights.Unicode

/-- The property Dash. -/
def dashSigns : CharSet := .ofTable "
  2D 58A 5BE 1400 1806 2010-2015 2053 207B 208B 2212 2E17 2E1A 2E3A-2E3B 2E40 2E5D 301C 3030 30A0
  FE31-FE32 FE58 FE63 FF0D 10D6E 10EAD"

/-- The property Hyphen. -/
def hyphens : CharSet := .ofTable "2D AD 58A 1806 2010-2011 2E17 30FB FE63 FF0D FF65"

/-- The property Quotation_Mark. -/
def quotationMarks : CharSet := .ofTable "
  22 27 AB BB 2018-201F 2039-203A 2E42 300C-300F 301D-301F FE41-FE44 FF02 FF07 FF62-FF63"

/-- The property Terminal_Punctuation. -/
def terminalPunctuation : CharSet := .ofTable "
  21 2C 2E 3A-3B 3F 37E 387 589 5C3 60C 61B 61D-61F 6D4 700-70A 70C 7F8-7F9 830-835 837-83E 85E
  964-965 E5A-E5B F08 F0D-F12 104A-104B 1361-1368 166E 16EB-16ED 1735-1736 17D4-17D6 17DA 1802-1805
  1808-1809 1944-1945 1AA8-1AAB 1B4E-1B4F 1B5A-1B5B 1B5D-1B5F 1B7D-1B7F 1C3B-1C3F 1C7E-1C7F 2024
  203C-203D 2047-2049 2CF9-2CFB 2E2E 2E3C 2E41 2E4C 2E4E-2E4F 2E53-2E54 3001-3002 A4FE-A4FF
  A60D-A60F A6F3-A6F7 A876-A877 A8CE-A8CF A92F A9C7-A9C9 AA5D-AA5F AADF AAF0-AAF1 ABEB FE12
  FE15-FE16 FE50-FE52 FE54-FE57 FF01 FF0C FF0E FF1A-FF1B FF1F FF61 FF64 1039F 103D0 10857 1091F
  10A56-10A57 10AF0-10AF5 10B3A-10B3F 10B99-10B9C 10F55-10F59 10F86-10F89 11047-1104D 110BE-110C1
  11141-11143 111C5-111C6 111CD 111DE-111DF 11238-1123C 112A9 113D4-113D5 1144B-1144D 1145A-1145B
  115C2-115C5 115C9-115D7 11641-11642 1173C-1173E 11944 11946 11A42-11A43 11A9B-11A9C 11AA1-11AA2
  11C41-11C43 11C71 11EF7-11EF8 11F43-11F44 12470-12474 16A6E-16A6F 16AF5 16B37-16B39 16B44
  16D6E-16D6F 16E97-16E98 1BC9F 1DA87-1DA8A"

/-- The property Sentence_Terminal. -/
def sentenceTerminals : CharSet := .ofTable "
  21 2E 3F 589 61D-61F 6D4 700-702 7F9 837 839 83D-83E 964-965 104A-104B 1362 1367-1368 166E
  1735-1736 17D4-17D5 1803 1809 1944-1945 1AA8-1AAB 1B4E-1B4F 1B5A-1B5B 1B5E-1B5F 1B7D-1B7F
  1C3B-1C3C 1C7E-1C7F 2024 203C-203D 2047-2049 2CF9-2CFB 2E2E 2E3C 2E53-2E54 3002 A4FF A60E-A60F
  A6F3 A6F7 A876-A877 A8CE-A8CF A92F A9C8-A9C9 AA5D-AA5F AAF0-AAF1 ABEB FE12 FE15-FE16 FE52
  FE56-FE57 FF01 FF0E FF1F FF61 10A56-10A57 10F55-10F59 10F86-10F89 11047-11048 110BE-110C1
  11141-11143 111C5-111C6 111CD 111DE-111DF 11238-11239 1123B-1123C 112A9 113D4-113D5 1144B-1144C
  115C2-115C3 115C9-115D7 11641-11642 1173C-1173E 11944 11946 11A42-11A43 11A9B-11A9C 11C41-11C42
  11EF7-11EF8 11F43-11F44 16A6E-16A6F 16AF5 16B37-16B38 16B44 16D6E-16D6F 16E98 1BC9F 1DA88"

/-- The property Other_Math. -/
def otherMath : CharSet := .ofTable "
  5E 3D0-3D2 3D5 3F0-3F1 3F4-3F5 2016 2032-2034 2040 2061-2064 207D-207E 208D-208E 20D0-20DC 20E1
  20E5-20E6 20EB-20EF 2102 2107 210A-2113 2115 2119-211D 2124 2128-2129 212C-212D 212F-2131
  2133-2138 213C-213F 2145-2149 2195-2199 219C-219F 21A1-21A2 21A4-21A5 21A7 21A9-21AD 21B0-21B1
  21B6-21B7 21BC-21CD 21D0-21D1 21D3 21D5-21DB 21DD 21E4-21E5 2308-230B 23B4-23B5 23B7 23D0 23E2
  25A0-25A1 25AE-25B6 25BC-25C0 25C6-25C7 25CA-25CB 25CF-25D3 25E2 25E4 25E7-25EC 2605-2606 2640
  2642 2660-2663 266D-266E 27C5-27C6 27E6-27EF 2983-2998 29D8-29DB 29FC-29FD FE61 FE63 FE68 FF3C
  FF3E 1D400-1D454 1D456-1D49C 1D49E-1D49F 1D4A2 1D4A5-1D4A6 1D4A9-1D4AC 1D4AE-1D4B9 1D4BB
  1D4BD-1D4C3 1D4C5-1D505 1D507-1D50A 1D50D-1D514 1D516-1D51C 1D51E-1D539 1D53B-1D53E 1D540-1D544
  1D546 1D54A-1D550 1D552-1D6A5 1D6A8-1D6C0 1D6C2-1D6DA 1D6DC-1D6FA 1D6FC-1D714 1D716-1D734
  1D736-1D74E 1D750-1D76E 1D770-1D788 1D78A-1D7A8 1D7AA-1D7C2 1D7C4-1D7CB 1D7CE-1D7FF 1EE00-1EE03
  1EE05-1EE1F 1EE21-1EE22 1EE24 1EE27 1EE29-1EE32 1EE34-1EE37 1EE39 1EE3B 1EE42 1EE47-1EE4B/2
  1EE4D-1EE4F 1EE51-1EE52 1EE54 1EE57-1EE5F/2 1EE61-1EE62 1EE64 1EE67-1EE6A 1EE6C-1EE72 1EE74-1EE77
  1EE79-1EE7C 1EE7E 1EE80-1EE89 1EE8B-1EE9B 1EEA1-1EEA3 1EEA5-1EEA9 1EEAB-1EEBB"

/-- The property Math. -/
def math : CharSet := mathSymbols.union otherMath

/-- The property Bidi_Mirrored. -/
def mirrored : CharSet := .ofTable "
  28-29 3C 3E 5B 5D 7B 7D AB BB F3A-F3D 169B-169C 2039-203A 2045-2046 207D-207E 208D-208E 2140
  2201-2204 2208-220D 2211 2215-2216 221A-221D 221F-2222 2224 2226 222B-2233 2239 223B-224C
  2252-2255 225F-2260 2262 2264-226B 226D-228C 228F-2292 2298 22A2-22A3 22A6-22B8 22BE-22BF
  22C9-22CD 22D0-22D1 22D6-22ED 22F0-22FF 2308-230B 2320-2321 2329-232A 2768-2775 27C0 27C3-27C6
  27C8-27C9 27CB-27CD 27D3-27D6 27DC-27DE 27E2-27EF 2983-2998 299B-29A0 29A2-29AF 29B8 29C0-29C5
  29C9 29CE-29D2 29D4-29D5 29D8-29DC 29E1 29E3-29E5 29E8-29E9 29F4-29F9 29FC-29FD 2A0A-2A1C
  2A1E-2A21 2A24 2A26 2A29 2A2B-2A2E 2A34-2A35 2A3C-2A3E 2A57-2A58 2A64-2A65 2A6A-2A6D 2A6F-2A70
  2A73-2A74 2A79-2AA3 2AA6-2AAD 2AAF-2AD6 2ADC 2ADE 2AE2-2AE6 2AEC-2AEE 2AF3 2AF7-2AFB 2AFD 2BFE
  2E02-2E05 2E09-2E0A 2E0C-2E0D 2E1C-2E1D 2E20-2E29 2E55-2E5C 3008-3011 3014-301B FE59-FE5E
  FE64-FE65 FF08-FF09 FF1C FF1E FF3B FF3D FF5B FF5D FF5F-FF60 FF62-FF63 1D6DB 1D715 1D74F 1D789
  1D7C3"

/-- The property Bidi_Control. -/
def bidiControls : CharSet := .ofTable "61C 200E-200F 202A-202E 2066-2069"

def wordExtend : CharSet := .unionAll [graphemeExtend, spacingMarks, emojiModifiers]

def hebrewLetters : CharSet := .ofTable "
  5D0-5EA 5EF-5F2 FB1D FB1F-FB28 FB2A-FB36 FB38-FB3C FB3E FB40-FB41 FB43-FB44 FB46-FB4F"

def katakana : CharSet := .ofTable "
  3031-3035 309B-309C 30A0-30FA 30FC-30FF 31F0-31FF 32D0-32FE 3300-3357 FF66-FF9D 1AFF0-1AFF3
  1AFF5-1AFFB 1AFFD-1AFFE 1B000 1B120-1B122 1B155 1B164-1B167"

/-- The letters of writing that has no spaces between its words, and some like them. -/
def lettersWithoutSpaces : CharSet := .ofTable "
  E01-E30 E32-E33 E40-E46 E81-E82 E84 E86-E8A E8C-EA3 EA5 EA7-EB0 EB2-EB3 EBD EC0-EC4 EC6 EDC-EDF
  1000-102A 103F 1050-1055 105A-105D 1061 1065-1066 106E-1070 1075-1081 108E 1780-17B3 17D7 17DC
  1950-196D 1970-1974 1980-19AB 19B0-19C9 1A20-1A54 1AA7 3041-3096 309D-309F A9E0-A9E4 A9E6-A9EF
  A9FA-A9FE AA60-AA76 AA7A AA7E-AAAF AAB1 AAB5-AAB6 AAB9-AABD AAC0 AAC2 AADB-AADD 11700-1171A
  11740-11746 1B001-1B11F 1B132 1B150-1B152"

/-- The signs that stand in words as letters do. -/
def letterLikeSigns : CharSet := .ofTable "
  2C2-2C5 2D2-2D7 2DE-2DF 2E5-2EB 2ED 2EF-2FF 55A-55C 55E 58A 5F3 70F A708-A716 A720-A721 A789-A78A
  AB5B"

def wordLetters : CharSet :=
  (alphabetic.diff (.unionAll [ideographs, katakana, hebrewLetters, wordExtend,
    lettersWithoutSpaces])).union letterLikeSigns

/-- The signs that stand in numbers as digits do. -/
def numberSigns : CharSet := .ofTable "600-605 66B 6DD 890-891 8E2 19DA 110BD 110CD"

def wordFormats : CharSet :=
  formats.diff (.unionAll [prependedConcatenationMarks, graphemeExtend,
    .ofChars ['\u200B', '\u200D']])

def midLetters : CharSet := .ofTable "3A B7 387 55F 5F4 2027 FE13 FE55 FF1A"

def midNumbers : CharSet := .ofTable "2C 3B 37E 589 60C-60D 66C 7F8 2044 FE50 FE54 FF0C FF1B"

def midNumbersAndLetters : CharSet := .ofTable "2E 2018-2019 2024 FE52 FF07 FF0E"

def newlines : CharSet := .ofTable "B-C 85 2028-2029"

def wordSpaces : CharSet := .ofTable "20 1680 2000-2006 2008-200A 205F 3000"

/-- The values that a character can have, apart from that of all others. -/
def wordBreaks : List NamedSet :=
  [⟨["cr"], .single '\r'⟩,
   ⟨["lf"], .single '\n'⟩,
   ⟨["newline", "nl"], newlines⟩,
   ⟨["extend"], wordExtend⟩,
   ⟨["zwj"], .single '\u200D'⟩,
   ⟨["fo", "format"], wordFormats⟩,
   ⟨["regionalindicator", "ri"], regionalIndicators⟩,
   ⟨["ka", "katakana"], katakana⟩,
   ⟨["hebrewletter", "hl"], hebrewLetters⟩,
   ⟨["aletter", "le"], wordLetters⟩,
   ⟨["singlequote", "sq"], .single '\''⟩,
   ⟨["doublequote", "dq"], .single '"'⟩,
   ⟨["mb", "midnumlet"], midNumbersAndLetters⟩,
   ⟨["midletter", "ml"], midLetters⟩,
   ⟨["midnum", "mn"], midNumbers⟩,
   ⟨["nu", "numeric"], digits.union numberSigns⟩,
   ⟨["ex", "extendnumlet"], connectors.union (.single '\u202F')⟩,
   ⟨["wsegspace"], wordSpaces⟩]

def sentenceExtend : CharSet := .unionAll [graphemeExtend, spacingMarks, .single '\u200D']

/-- The small letters of Georgian, which has sentences without capitals. -/
def georgianSmallLetters : CharSet := .ofTable "10D0-10FA 10FD-10FF"

def georgianCapitals : CharSet := .ofTable "1C90-1CBA 1CBD-1CBF"

def sentenceLower : CharSet := (lowercase.diff graphemeExtend).diff georgianSmallLetters

def sentenceUpper : CharSet := (uppercase.union titleLetters).diff georgianCapitals

def sentenceLetters : CharSet :=
  (alphabetic.diff (.unionAll [sentenceLower, sentenceUpper, sentenceExtend])).union
    (.single '\u05F3')

/-- The signs that stand in numbers as digits do. -/
def sentenceNumberSigns : CharSet := .ofTable "600-605 66B-66C 6DD 890-891 8E2 19DA 110BD 110CD"

def sentenceFormats : CharSet :=
  formats.diff (.unionAll [graphemeExtend, .single '\u200D',
    prependedConcatenationMarks.diff (.single '\u070F')])

def sentenceSeparators : CharSet := .ofTable "85 2028-2029"

def fullStops : CharSet := .ofTable "2E 2024 FE52 FF0E"

def sentenceSpaces : CharSet := whiteSpace.diff (sentenceSeparators.union (.ofChars ['\n', '\r']))

/-- The signs, neither openings nor closings nor quotes, that close as those do. -/
def closingSigns : CharSet := .ofTable "275B-2760 2E00-2E01 2E06-2E08 2E0B 1F676-1F678"

def sentenceClosings : CharSet :=
  (CharSet.unionAll [openings, closings, initialQuotes, finalQuotes, quotationMarks,
    closingSigns]).diff (.ofChars ['\uFF02', '\uFF07'])

def sentenceContinuations : CharSet := .ofTable "
  2C-2D 3A-3B 37E 55D 60C-60D 7F8 1802 1808 2013-2014 3001 FE10-FE11 FE13-FE14 FE31-FE32 FE50-FE51
  FE54-FE55 FE58 FE63 FF0C-FF0D FF1A-FF1B FF64"

/-- The values that a character can have, apart from that of all others. -/
def sentenceBreaks : List NamedSet :=
  [⟨["cr"], .single '\r'⟩,
   ⟨["lf"], .single '\n'⟩,
   ⟨["ex", "extend"], sentenceExtend⟩,
   ⟨["se", "sep"], sentenceSeparators⟩,
   ⟨["fo", "format"], sentenceFormats⟩,
   ⟨["sp"], sentenceSpaces⟩,
   ⟨["lo", "lower"], sentenceLower⟩,
   ⟨["up", "upper"], sentenceUpper⟩,
   ⟨["le", "oletter"], sentenceLetters⟩,
   ⟨["nu", "numeric"], digits.union sentenceNumberSigns⟩,
   ⟨["at", "aterm"], fullStops⟩,
   ⟨["sc", "scontinue"], sentenceContinuations⟩,
   ⟨["st", "sterm"], sentenceTerminals.diff fullStops⟩,
   ⟨["cl", "close"], sentenceClosings⟩]

end TagRights.Unicode
