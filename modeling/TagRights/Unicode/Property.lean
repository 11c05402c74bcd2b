import TagRights.Unicode.Age
import TagRights.Unicode.Boundary
import TagRights.Unicode.Grapheme
import TagRights.Unicode.Script

namespace TagRights.Unicode

def categoriesOfText : List NamedSet :=
  [⟨["l", "letter"], letters⟩,
   ⟨["lc", "casedletter"], casedLetters⟩,
   ⟨["lu", "uppercaseletter"], capitals⟩,
   ⟨["ll", "lowercaseletter"], smallLetters⟩,
   ⟨["lt", "titlecaseletter"], titleLetters⟩,
   ⟨["lm", "modifierletter"], modifierLetters⟩,
   ⟨["lo", "otherletter"], otherLetters⟩,
   ⟨["m", "mark", "combiningmark"], marks⟩,
   ⟨["mn", "nonspacingmark"], nonspacingMarks⟩,
   ⟨["mc", "spacingmark"], spacingMarks⟩,
   ⟨["me", "enclosingmark"], enclosingMarks⟩,
   ⟨["n", "number"], numbers⟩,
   ⟨["nd", "decimalnumber", "digit"], digits⟩,
   ⟨["nl", "letternumber"], letterNumbers⟩,
   ⟨["no", "othernumber"], otherNumbers⟩]

def categoriesOfSigns : List NamedSet :=
  [⟨["p", "punctuation", "punct"], punctuation⟩,
   ⟨["pc", "connectorpunctuation"], connectors⟩,
   ⟨["pd", "dashpunctuation"], dashes⟩,
   ⟨["ps", "openpunctuation"], openings⟩,
   ⟨["pe", "closepunctuation"], closings⟩,
   ⟨["pi", "initialpunctuation"], initialQuotes⟩,
   ⟨["pf", "finalpunctuation"], finalQuotes⟩,
   ⟨["po", "otherpunctuation"], otherPunctuation⟩,
   ⟨["s", "symbol"], symbols⟩,
   ⟨["sm", "mathsymbol"], mathSymbols⟩,
   ⟨["sc", "currencysymbol"], currencySymbols⟩,
   ⟨["sk", "modifiersymbol"], modifierSymbols⟩,
   ⟨["so", "othersymbol"], otherSymbols⟩,
   ⟨["z", "separator"], separators⟩,
   ⟨["zs", "spaceseparator"], spaces⟩,
   ⟨["zl", "lineseparator"], lineSeparators⟩,
   ⟨["zp", "paragraphseparator"], paragraphSeparators⟩,
   ⟨["c", "other"], others⟩,
   ⟨["cc", "control", "cntrl"], controls⟩,
   ⟨["cf", "format"], formats⟩,
   ⟨["co", "privateuse"], privateUse⟩,
   ⟨["cn", "unassigned"], unassigned⟩]

/-- Three sets that count as categories. -/
def generalSets : List NamedSet :=
  [⟨["any"], .all⟩,
   ⟨["ascii"], .interval '\x00' '\x7f'⟩,
   ⟨["assigned"], unassigned.not⟩]

/-- The property Case_Ignorable. -/
def caseIgnorable : CharSet :=
  .unionAll [nonspacingMarks, enclosingMarks, formats, modifierLetters, modifierSymbols, midLetters,
    midNumbersAndLetters, .single '\'']

def propertiesOfLetters : List NamedSet :=
  [⟨["alpha", "alphabetic"], alphabetic⟩,
   ⟨["oalpha", "otheralphabetic"], otherAlphabetic⟩,
   ⟨["lower", "lowercase"], lowercase⟩,
   ⟨["olower", "otherlowercase"], otherLowercase⟩,
   ⟨["upper", "uppercase"], uppercase⟩,
   ⟨["oupper", "otheruppercase"], otherUppercase⟩,
   ⟨["cased"], cased⟩,
   ⟨["ci", "caseignorable"], caseIgnorable⟩,
   ⟨["cwl", "changeswhenlowercased"], changesWhenLowercased⟩,
   ⟨["cwu", "changeswhenuppercased"], changesWhenUppercased⟩,
   ⟨["cwt", "changeswhentitlecased"], changesWhenTitlecased⟩,
   ⟨["cwcf", "changeswhencasefolded"], changesWhenCasefolded⟩,
   ⟨["cwcm", "changeswhencasemapped"], changesWhenCasemapped⟩,
   ⟨["sd", "softdotted"], softDotted⟩,
   ⟨["dia", "diacritic"], diacritics⟩,
   ⟨["ext", "extender"], extenders⟩,
   ⟨["mcm", "modifiercombiningmark"], modifierCombiningMarks⟩,
   ⟨["loe", "logicalorderexception"], logicalOrderExceptions⟩,
   ⟨["ideo", "ideographic"], ideographs⟩,
   ⟨["uideo", "unifiedideograph"], unifiedIdeographs⟩,
   ⟨["radical"], radicals⟩,
   ⟨["idsu", "idsunaryoperator"], unaryIdeographOperators⟩,
   ⟨["idsb", "idsbinaryoperator"], binaryIdeographOperators⟩,
   ⟨["idst", "idstrinaryoperator"], ternaryIdeographOperators⟩]

def propertiesOfNames : List NamedSet :=
  [⟨["space", "wspace", "whitespace"], whiteSpace⟩,
   ⟨["patws", "patternwhitespace"], patternWhiteSpace⟩,
   ⟨["patsyn", "patternsyntax"], patternSyntax⟩,
   ⟨["ids", "idstart"], identifierStart⟩,
   ⟨["idc", "idcontinue"], identifierContinue⟩,
   ⟨["xids", "xidstart"], normalizedIdentifierStart⟩,
   ⟨["xidc", "xidcontinue"], normalizedIdentifierContinue⟩,
   ⟨["oids", "otheridstart"], otherIdentifierStart⟩,
   ⟨["oidc", "otheridcontinue"], otherIdentifierContinue⟩,
   ⟨["idcompatmathstart"], mathIdentifierStart⟩,
   ⟨["idcompatmathcontinue"], mathIdentifierContinue⟩,
   ⟨["ahex", "asciihexdigit"], asciiHexDigits⟩,
   ⟨["hex", "hexdigit"], hexDigits⟩]

def propertiesOfSigns : List NamedSet :=
  [⟨["dash"], dashSigns⟩,
   ⟨["hyphen"], hyphens⟩,
   ⟨["qmark", "quotationmark"], quotationMarks⟩,
   ⟨["term", "terminalpunctuation"], terminalPunctuation⟩,
   ⟨["sterm", "sentenceterminal"], sentenceTerminals⟩,
   ⟨["math"], math⟩,
   ⟨["omath", "othermath"], otherMath⟩,
   ⟨["bidim", "bidimirrored"], mirrored⟩,
   ⟨["bidic", "bidicontrol"], bidiControls⟩,
   ⟨["emoji"], emoji⟩,
   ⟨["epres", "emojipresentation"], emojiPresentation⟩,
   ⟨["emod", "emojimodifier"], emojiModifiers⟩,
   ⟨["ebase", "emojimodifierbase"], emojiModifierBases⟩,
   ⟨["ecomp", "emojicomponent"], emojiComponents⟩,
   ⟨["extpict", "extendedpictographic"], extendedPictographs⟩,
   ⟨["ri", "regionalindicator"], regionalIndicators⟩]

def propertiesOfJoining : List NamedSet :=
  [⟨["grbase", "graphemebase"], graphemeBase⟩,
   ⟨["grext", "graphemeextend"], graphemeExtend⟩,
   ⟨["ogrext", "othergraphemeextend"], otherGraphemeExtend⟩,
   ⟨["grlink", "graphemelink"], graphemeLinks⟩,
   ⟨["pcm", "prependedconcatenationmark"], prependedConcatenationMarks⟩,
   ⟨["joinc", "joincontrol"], joinControls⟩,
   ⟨["vs", "variationselector"], variationSelectors⟩,
   ⟨["di", "defaultignorablecodepoint"], defaultIgnorable⟩,
   ⟨["odi", "otherdefaultignorablecodepoint"], otherDefaultIgnorable⟩,
   ⟨["dep", "deprecated"], deprecated⟩,
   ⟨["nchar", "noncharactercodepoint"], noncharacters⟩]

def categoryNamed? (name : String) : Option CharSet :=
  NamedSet.find? (categoriesOfText ++ categoriesOfSigns ++ generalSets) name

def propertyNamed? (name : String) : Option CharSet :=
  NamedSet.find? (propertiesOfLetters ++ propertiesOfNames ++ propertiesOfSigns ++
    propertiesOfJoining) name

end TagRights.Unicode

namespace TagRights.CharSet

open Unicode

/-- A name without case, spaces, hyphens, underscores and an `is` before it, which do not matter.
The `is` of `isc` does. -/
def plainName (cs : List Char) : String :=
  let hasIs := (cs.take 2).map Char.toLower == ['i', 's']
  let matters := fun c : Char => c.toNat < 0x80 && c != ' ' && c != '_' && c != '-'
  let name := ((if hasIs then cs.drop 2 else cs).filter matters).map Char.toLower
  String.ofList (if hasIs && name == ['c'] then ['i', 's', 'c'] else name)

def script? (name : String) : Option CharSet :=
  (scriptNamed? name).map (·.members)

/-- A property that characters have or have not, a general category, or a script. -/
def plainNamed? (cs : List Char) : Option CharSet :=
  let name := plainName cs
  (propertyNamed? name).or ((categoryNamed? name).or (script? name))

/-- The characters for which a property has a value. -/
def valued? (property value : List Char) : Option CharSet :=
  let value := plainName value
  match plainName property with
  | "gc" | "generalcategory" => categoryNamed? value
  | "sc" | "script" => script? value
  | "scx" | "scriptextensions" => (scriptNamed? value).map (·.used)
  | "age" => ageNamed? value
  | "gcb" | "graphemeclusterbreak" => NamedSet.find? graphemeClusterBreaks value
  | "wb" | "wordbreak" => NamedSet.find? wordBreaks value
  | "sb" | "sentencebreak" => NamedSet.find? sentenceBreaks value
  | _ => none

/-- What stands before and after the first `sign`. -/
def cutAt? (sign : List Char) : List Char → Option (List Char × List Char)
  | [] => none
  | c :: cs =>
    if sign.isPrefixOf (c :: cs) then some ([], (c :: cs).drop sign.length)
    else (cutAt? sign cs).map fun (before, after) => (c :: before, after)

/-- The set that is named, or that has a property with a value after a sign between them, and
whether the sign says that the others are meant. -/
def named? (cs : List Char) : Option (CharSet × Bool) :=
  match cutAt? ['!', '='] cs, cutAt? [':'] cs, cutAt? ['='] cs with
  | some (property, value), _, _ => do return (← valued? property value, true)
  | none, some (property, value), _ | none, none, some (property, value) => do
    return (← valued? property value, false)
  | none, none, none => do return (← plainNamed? cs, false)

/-- The ASCII classes by their names. -/
def asciiNamed? (name : String) : Option CharSet :=
  ofTable <$> match name with
    | "alnum" => some "30-39 41-5A 61-7A"
    | "alpha" => some "41-5A 61-7A"
    | "ascii" => some "0-7F"
    | "blank" => some "9 20"
    | "cntrl" => some "0-1F 7F"
    | "digit" => some "30-39"
    | "graph" => some "21-7E"
    | "lower" => some "61-7A"
    | "print" => some "20-7E"
    | "punct" => some "21-2F 3A-40 5B-60 7B-7E"
    | "space" => some "9-D 20"
    | "upper" => some "41-5A"
    | "word" => some "30-39 41-5A 5F 61-7A"
    | "xdigit" => some "30-39 41-46 61-66"
    | _ => none

end TagRights.CharSet
