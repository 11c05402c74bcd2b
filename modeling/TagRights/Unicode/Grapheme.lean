import TagRights.CharSet
import TagRights.Unicode.Alphabet

namespace TagRights.Unicode

/-- The property Other_Grapheme_Extend. -/
def otherGraphemeExtend : CharSet := .ofTable "
  9BE 9D7 B3E B57 BBE BD7 CC0 CC2 CC7-CC8 CCA-CCB CD5-CD6 D3E D57 DCF DDF 1715 1734 1B35 1B3B 1B3D
  1B43-1B44 1BAA 1BF2-1BF3 200C 302E-302F A953 A9C0 FF9E-FF9F 111C0 11235 1133E 1134D 11357 113B8
  113C2 113C5 113C7-113C9 113CF 114B0 114BD 115AF 116B6 11930 1193D 11F41 16FF0-16FF1 1D165-1D166
  1D16D-1D172 E0020-E007F"

/-- The property Grapheme_Extend. -/
def graphemeExtend : CharSet := .unionAll [nonspacingMarks, enclosingMarks, otherGraphemeExtend]

/-- The property Grapheme_Base. -/
def graphemeBase : CharSet :=
  .not (.unionAll [others, lineSeparators, paragraphSeparators, graphemeExtend])

/-- The property Grapheme_Link. -/
def graphemeLinks : CharSet := .ofTable "
  94D 9CD A4D ACD B4D BCD C4D CCD D3B-D3C D4D DCA E3A EBA F84 1039-103A 1714-1715 1734 17D2 1A60
  1B44 1BAA-1BAB 1BF2-1BF3 2D7F A806 A82C A8C4 A953 A9C0 AAF6 ABED 10A3F 11046 11070 1107F 110B9
  11133-11134 111C0 11235 112EA 1134D 113CE-113D0 11442 114C2 115BF 1163F 116B6 1172B 11839
  1193D-1193E 119E0 11A34 11A47 11A99 11C3F 11D44-11D45 11D97 11F41-11F42 1612F"

/-- The property Prepended_Concatenation_Mark. -/
def prependedConcatenationMarks : CharSet := .ofTable "600-605 6DD 70F 890-891 8E2 110BD 110CD"

/-- The property Join_Control. -/
def joinControls : CharSet := .ofTable "200C-200D"

/-- The property Variation_Selector. -/
def variationSelectors : CharSet := .ofTable "180B-180D 180F FE00-FE0F E0100-E01EF"

/-- The property Other_Default_Ignorable_Code_Point. -/
def otherDefaultIgnorable : CharSet := .ofTable "
  34F 115F-1160 17B4-17B5 2065 3164 FFA0 FFF0-FFF8 E0000 E0002-E001F E0080-E00FF E01F0-E0FFF"

/-- Formats that are seen, of annotations and hieroglyphs. -/
def visibleFormats : CharSet := .ofTable "FFF9-FFFB 13430-13440"

/-- The property Default_Ignorable_Code_Point. -/
def defaultIgnorable : CharSet :=
  (CharSet.unionAll [otherDefaultIgnorable, formats, variationSelectors]).diff
    (.unionAll [whiteSpace, visibleFormats, prependedConcatenationMarks])

/-- The property Deprecated. -/
def deprecated : CharSet := .ofTable "149 673 F77 F79 17A3-17A4 206A-206F 2329-232A E0001"

/-- The property Noncharacter_Code_Point. -/
def noncharacters : CharSet := .ofTable "
  FDD0-FDEF FFFE-FFFF 1FFFE-1FFFF 2FFFE-2FFFF 3FFFE-3FFFF 4FFFE-4FFFF 5FFFE-5FFFF 6FFFE-6FFFF
  7FFFE-7FFFF 8FFFE-8FFFF 9FFFE-9FFFF AFFFE-AFFFF BFFFE-BFFFF CFFFE-CFFFF DFFFE-DFFFF EFFFE-EFFFF
  FFFFE-FFFFF 10FFFE-10FFFF"

/-- The property Emoji. -/
def emoji : CharSet := .ofTable "
  23 2A 30-39 A9 AE 203C 2049 2122 2139 2194-2199 21A9-21AA 231A-231B 2328 23CF 23E9-23F3 23F8-23FA
  24C2 25AA-25AB 25B6 25C0 25FB-25FE 2600-2604 260E 2611 2614-2615 2618 261D 2620 2622-2623 2626
  262A 262E-262F 2638-263A 2640 2642 2648-2653 265F-2660 2663 2665-2666 2668 267B 267E-267F
  2692-2697 2699 269B-269C 26A0-26A1 26A7 26AA-26AB 26B0-26B1 26BD-26BE 26C4-26C5 26C8 26CE-26CF
  26D1 26D3-26D4 26E9-26EA 26F0-26F5 26F7-26FA 26FD 2702 2705 2708-270D 270F 2712-2716/2 271D 2721
  2728 2733-2734 2744 2747 274C 274E 2753-2755 2757 2763-2764 2795-2797 27A1 27B0 27BF 2934-2935
  2B05-2B07 2B1B-2B1C 2B50 2B55 3030 303D 3297 3299 1F004 1F0CF 1F170-1F171 1F17E-1F17F 1F18E
  1F191-1F19A 1F1E6-1F1FF 1F201-1F202 1F21A 1F22F 1F232-1F23A 1F250-1F251 1F300-1F321 1F324-1F393
  1F396-1F397 1F399-1F39B 1F39E-1F3F0 1F3F3-1F3F5 1F3F7-1F4FD 1F4FF-1F53D 1F549-1F54E 1F550-1F567
  1F56F-1F570 1F573-1F57A 1F587 1F58A-1F58D 1F590 1F595-1F596 1F5A4-1F5A5 1F5A8 1F5B1-1F5B2 1F5BC
  1F5C2-1F5C4 1F5D1-1F5D3 1F5DC-1F5DE 1F5E1 1F5E3 1F5E8 1F5EF 1F5F3 1F5FA-1F64F 1F680-1F6C5
  1F6CB-1F6D2 1F6D5-1F6D7 1F6DC-1F6E5 1F6E9 1F6EB-1F6EC 1F6F0 1F6F3-1F6FC 1F7E0-1F7EB 1F7F0
  1F90C-1F93A 1F93C-1F945 1F947-1F9FF 1FA70-1FA7C 1FA80-1FA89 1FA8F-1FAC6 1FACE-1FADC 1FADF-1FAE9
  1FAF0-1FAF8"

/-- The property Emoji_Presentation. -/
def emojiPresentation : CharSet := .ofTable "
  231A-231B 23E9-23EC 23F0 23F3 25FD-25FE 2614-2615 2648-2653 267F 2693 26A1 26AA-26AB 26BD-26BE
  26C4-26C5 26CE 26D4 26EA 26F2-26F3 26F5 26FA 26FD 2705 270A-270B 2728 274C 274E 2753-2755 2757
  2795-2797 27B0 27BF 2B1B-2B1C 2B50 2B55 1F004 1F0CF 1F18E 1F191-1F19A 1F1E6-1F1FF 1F201 1F21A
  1F22F 1F232-1F236 1F238-1F23A 1F250-1F251 1F300-1F320 1F32D-1F335 1F337-1F37C 1F37E-1F393
  1F3A0-1F3CA 1F3CF-1F3D3 1F3E0-1F3F0 1F3F4 1F3F8-1F43E 1F440 1F442-1F4FC 1F4FF-1F53D 1F54B-1F54E
  1F550-1F567 1F57A 1F595-1F596 1F5A4 1F5FB-1F64F 1F680-1F6C5 1F6CC 1F6D0-1F6D2 1F6D5-1F6D7
  1F6DC-1F6DF 1F6EB-1F6EC 1F6F4-1F6FC 1F7E0-1F7EB 1F7F0 1F90C-1F93A 1F93C-1F945 1F947-1F9FF
  1FA70-1FA7C 1FA80-1FA89 1FA8F-1FAC6 1FACE-1FADC 1FADF-1FAE9 1FAF0-1FAF8"

/-- The property Emoji_Modifier. -/
def emojiModifiers : CharSet := .ofTable "1F3FB-1F3FF"

/-- The property Emoji_Modifier_Base. -/
def emojiModifierBases : CharSet := .ofTable "
  261D 26F9 270A-270D 1F385 1F3C2-1F3C4 1F3C7 1F3CA-1F3CC 1F442-1F443 1F446-1F450 1F466-1F478 1F47C
  1F481-1F483 1F485-1F487 1F48F 1F491 1F4AA 1F574-1F575 1F57A 1F590 1F595-1F596 1F645-1F647
  1F64B-1F64F 1F6A3 1F6B4-1F6B6 1F6C0 1F6CC 1F90C 1F90F 1F918-1F91F 1F926 1F930-1F939 1F93C-1F93E
  1F977 1F9B5-1F9B6 1F9B8-1F9B9 1F9BB 1F9CD-1F9CF 1F9D1-1F9DD 1FAC3-1FAC5 1FAF0-1FAF8"

/-- The property Emoji_Component. -/
def emojiComponents : CharSet := .ofTable "
  23 2A 30-39 200D 20E3 FE0F 1F1E6-1F1FF 1F3FB-1F3FF 1F9B0-1F9B3 E0020-E007F"

/-- The property Extended_Pictographic. -/
def extendedPictographs : CharSet := .ofTable "
  A9 AE 203C 2049 2122 2139 2194-2199 21A9-21AA 231A-231B 2328 2388 23CF 23E9-23F3 23F8-23FA 24C2
  25AA-25AB 25B6 25C0 25FB-25FE 2600-2605 2607-2612 2614-2685 2690-2705 2708-2712 2714 2716 271D
  2721 2728 2733-2734 2744 2747 274C 274E 2753-2755 2757 2763-2767 2795-2797 27A1 27B0 27BF
  2934-2935 2B05-2B07 2B1B-2B1C 2B50 2B55 3030 303D 3297 3299 1F000-1F0FF 1F10D-1F10F 1F12F
  1F16C-1F171 1F17E-1F17F 1F18E 1F191-1F19A 1F1AD-1F1E5 1F201-1F20F 1F21A 1F22F 1F232-1F23A
  1F23C-1F23F 1F249-1F3FA 1F400-1F53D 1F546-1F64F 1F680-1F6FF 1F774-1F77F 1F7D5-1F7FF 1F80C-1F80F
  1F848-1F84F 1F85A-1F85F 1F888-1F88F 1F8AE-1F8FF 1F90C-1F93A 1F93C-1F945 1F947-1FAFF 1FC00-1FFFD"

/-- The property Regional_Indicator. -/
def regionalIndicators : CharSet := .ofTable "1F1E6-1F1FF"

/-- The names are in small letters and without separators. -/
structure NamedSet where
  names : List String
  set : CharSet

def NamedSet.find? (sets : List NamedSet) (name : String) : Option CharSet :=
  (List.find? (fun s => s.names.contains name) sets).map (·.set)

def graphemeControls : CharSet :=
  (CharSet.unionAll [lineSeparators, paragraphSeparators, controls, formats,
    defaultIgnorable.inter unassigned]).diff (.unionAll [graphemeExtend,
    prependedConcatenationMarks, .ofChars ['\n', '\r', '\u200D']])

def hangulLeading : CharSet := .ofTable "1100-115F A960-A97C"

def hangulVowels : CharSet := .ofTable "1160-11A7 D7B0-D7C6 16D63 16D67-16D6A"

def hangulTrailing : CharSet := .ofTable "11A8-11FF D7CB-D7FB"

/-- The Hangul syllables without a trailing consonant. Of each 28 syllables it is the first. -/
def openSyllables : CharSet := .ofChars ((List.range 399).map fun n => Char.ofNat (0xAC00 + 28 * n))

def closedSyllables : CharSet := (CharSet.interval '\uAC00' '\uD7A3').diff openSyllables

/-- The spacing marks that do not join what stands before them. -/
def freeSpacingMarks : CharSet := .ofTable "
  102B-102C 1038 1062-1064 1067-106D 1083 1087-108C 108F 109A-109C 1A61 1A63-1A64 AA7B AA7D
  11720-11721"

/-- The letters that join what stands before them as spacing marks do. -/
def spacingLetters : CharSet := .ofTable "E33 EB3"

def graphemeSpacing : CharSet :=
  ((spacingMarks.diff graphemeExtend).diff freeSpacingMarks).union spacingLetters

/-- The letters that join what stands after them. -/
def prependedLetters : CharSet := .ofTable "
  D4E 111C2-111C3 113D1 1193F 11941 11A3A 11A84-11A89 11D46 11F02"

/-- The values that a character can have, apart from that of all others. -/
def graphemeClusterBreaks : List NamedSet :=
  [⟨["cr"], .single '\r'⟩,
   ⟨["lf"], .single '\n'⟩,
   ⟨["cn", "control"], graphemeControls⟩,
   ⟨["ex", "extend"], graphemeExtend.union emojiModifiers⟩,
   ⟨["zwj"], .single '\u200D'⟩,
   ⟨["regionalindicator", "ri"], regionalIndicators⟩,
   ⟨["pp", "prepend"], prependedConcatenationMarks.union prependedLetters⟩,
   ⟨["sm", "spacingmark"], graphemeSpacing⟩,
   ⟨["l"], hangulLeading⟩,
   ⟨["v"], hangulVowels⟩,
   ⟨["t"], hangulTrailing⟩,
   ⟨["lv"], openSyllables⟩,
   ⟨["lvt"], closedSyllables⟩]

end TagRights.Unicode
