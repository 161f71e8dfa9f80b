import WebRecipe.Unicode.Boundary
import WebRecipe.Unicode.Case
import WebRecipe.Unicode.Script
import WebRecipe.Unicode.Version

/-!
# Names of sets of characters

The names by which sets of characters are called: properties, general categories and scripts by
themselves, and properties with a value. Capitals, blanks, hyphens and underscores in a name do not
count, nor does `is` at its start.
-/

namespace WebRecipe.Unicode

/-! ### Spelling of names -/

/-- Whether a character of a name counts. -/
def countsInName (c : Char) : Bool :=
  c != ' ' && c != '-' && c != '_' && c.toNat < 0x80

/-- A name without what does not count. A `c` after `is` is the name of no set. -/
def plainName (cs : List Char) : String :=
  match cs with
  | [] => ""
  | [c] => plain [c]
  | i :: s :: rest =>
    if i.toLower == 'i' && s.toLower == 's' then
      if plain rest == "c" then "isc" else plain rest
    else plain cs
where
  plain (cs : List Char) : String := String.ofList ((cs.filter countsInName).map Char.toLower)

/-! ### Names of properties and categories -/

/-- The properties by their names. -/
def properties : List (List String × List CodeRange) :=
  [(["alphabetic", "alpha"], alphabetic),
    (["asciihexdigit", "ahex"], asciiHexDigit),
    (["bidicontrol", "bidic"], bidiControl),
    (["bidimirrored", "bidim"], bidiMirrored),
    (["caseignorable", "ci"], caseIgnorable),
    (["cased"], cased),
    (["changeswhencasefolded", "cwcf"], changesWhenCasefolded),
    (["changeswhencasemapped", "cwcm"], changesWhenCasemapped),
    (["changeswhenlowercased", "cwl"], changesWhenLowercased),
    (["changeswhentitlecased", "cwt"], changesWhenTitlecased),
    (["changeswhenuppercased", "cwu"], changesWhenUppercased),
    (["dash"], dash),
    (["defaultignorablecodepoint", "di"], defaultIgnorable),
    (["deprecated", "dep"], deprecated),
    (["diacritic", "dia"], diacritic),
    (["emoji"], emoji),
    (["emojicomponent", "ecomp"], emojiComponent),
    (["emojimodifier", "emod"], emojiModifier),
    (["emojimodifierbase", "ebase"], emojiModifierBase),
    (["emojipresentation", "epres"], emojiPresentation),
    (["extendedpictographic", "extpict"], extendedPictographic),
    (["extender", "ext"], extender),
    (["graphemebase", "grbase"], graphemeBase),
    (["graphemeextend", "grext"], graphemeExtend),
    (["graphemelink", "grlink"], graphemeLink),
    (["hexdigit", "hex"], hexDigit),
    (["hyphen"], hyphen),
    (["idcompatmathcontinue"], idCompatMathContinue),
    (["idcompatmathstart"], idCompatMathStart),
    (["idcontinue", "idc"], idContinue),
    (["idstart", "ids"], idStart),
    (["ideographic", "ideo"], ideographic),
    (["idsbinaryoperator", "idsb"], idsBinaryOperator),
    (["idstrinaryoperator", "idst"], idsTrinaryOperator),
    (["idsunaryoperator", "idsu"], idsUnaryOperator),
    (["joincontrol", "joinc"], joinControl),
    (["logicalorderexception", "loe"], logicalOrderException),
    (["lowercase", "lower"], lowercase),
    (["math"], math),
    (["modifiercombiningmark", "mcm"], modifierCombiningMark),
    (["noncharactercodepoint", "nchar"], noncharacter),
    (["otheralphabetic", "oalpha"], otherAlphabetic),
    (["otherdefaultignorablecodepoint", "odi"], otherDefaultIgnorable),
    (["othergraphemeextend", "ogrext"], otherGraphemeExtend),
    (["otheridcontinue", "oidc"], otherIdContinue),
    (["otheridstart", "oids"], otherIdStart),
    (["otherlowercase", "olower"], otherLowercase),
    (["othermath", "omath"], otherMath),
    (["otheruppercase", "oupper"], otherUppercase),
    (["patternsyntax", "patsyn"], patternSyntax),
    (["patternwhitespace", "patws"], patternWhiteSpace),
    (["prependedconcatenationmark", "pcm"], prependedMark),
    (["quotationmark", "qmark"], quotationMark),
    (["radical"], radical),
    (["regionalindicator", "ri"], regionalIndicator),
    (["sentenceterminal", "sterm"], sentenceTerminal),
    (["softdotted", "sd"], softDotted),
    (["terminalpunctuation", "term"], terminalPunctuation),
    (["unifiedideograph", "uideo"], unifiedIdeograph),
    (["uppercase", "upper"], uppercase),
    (["variationselector", "vs"], variationSelector),
    (["whitespace", "space", "wspace"], whiteSpace),
    (["xidcontinue", "xidc"], xidContinue),
    (["xidstart", "xids"], xidStart)]

/-- The property that has a name. -/
def propertyRanges? (name : String) : Option (List CodeRange) :=
  (properties.find? (·.1.contains name)).map (·.2)

/-- The general categories, and groups of them, by their names. -/
def categoryNames : List (List String × List Category) :=
  [(["uppercaseletter", "lu"], [.lu]),
    (["lowercaseletter", "ll"], [.ll]),
    (["titlecaseletter", "lt"], [.lt]),
    (["modifierletter", "lm"], [.lm]),
    (["otherletter", "lo"], [.lo]),
    (["nonspacingmark", "mn"], [.mn]),
    (["spacingmark", "mc"], [.mc]),
    (["enclosingmark", "me"], [.me]),
    (["decimalnumber", "digit", "nd"], [.nd]),
    (["letternumber", "nl"], [.nl]),
    (["othernumber", "no"], [.no]),
    (["connectorpunctuation", "pc"], [.pc]),
    (["dashpunctuation", "pd"], [.pd]),
    (["openpunctuation", "ps"], [.ps]),
    (["closepunctuation", "pe"], [.pe]),
    (["initialpunctuation", "pi"], [.pi]),
    (["finalpunctuation", "pf"], [.pf]),
    (["otherpunctuation", "po"], [.po]),
    (["mathsymbol", "sm"], [.sm]),
    (["currencysymbol", "sc"], [.sc]),
    (["modifiersymbol", "sk"], [.sk]),
    (["othersymbol", "so"], [.so]),
    (["spaceseparator", "zs"], [.zs]),
    (["lineseparator", "zl"], [.zl]),
    (["paragraphseparator", "zp"], [.zp]),
    (["control", "cc", "cntrl"], [.cc]),
    (["format", "cf"], [.cf]),
    (["privateuse", "co"], [.co]),
    (["casedletter", "lc"], [.lu, .ll, .lt]),
    (["letter", "l"], Category.letters),
    (["mark", "combiningmark", "m"], Category.marks),
    (["number", "n"], Category.numbers),
    (["punctuation", "p", "punct"], [.pc, .pd, .ps, .pe, .pi, .pf, .po]),
    (["symbol", "s"], [.sm, .sc, .sk, .so]),
    (["separator", "z"], [.zs, .zl, .zp])]

/-- The characters that are no others: those without a use of their own, and what is no character. -/
def otherRanges : List CodeRange :=
  CodeRange.normalize (rangesOf [.cc, .cf, .co] ++ unassignedRanges ++ surrogateRanges)

/-- The general category, or group of categories, that has a name. -/
def categoryRanges? (name : String) : Option (List CodeRange) :=
  match name with
  | "any" => some (CodeRange.table "0-10ffff")
  | "assigned" => some assignedRanges
  | "ascii" => some (CodeRange.table "0-7f")
  | "unassigned" | "cn" => some unassignedRanges
  | "other" | "c" => some otherRanges
  | _ => (categoryNames.find? (·.1.contains name)).map fun entry ↦ rangesOf entry.2

/-! ### Looking up -/

/-- The characters that a name stands for. The names `cf`, `sc` and `lc` are those of categories. -/
def namedRanges? (name : List Char) : Option (List CodeRange) :=
  let name := plainName name
  ((propertyRanges? name).or (categoryRanges? name)).or ((Script.ofName? name).map Script.ranges)

/-- The characters that have a value for a property. -/
def valuedRanges? (property value : List Char) : Option (List CodeRange) :=
  let value := plainName value
  match plainName property with
  | "generalcategory" | "gc" => categoryRanges? value
  | "script" | "sc" => (Script.ofName? value).map Script.ranges
  | "scriptextensions" | "scx" => (Script.ofName? value).map Script.extendedRanges
  | "age" => Version.rangesUpTo? value
  | "graphemeclusterbreak" | "gcb" => (ClusterClass.ofName? value).map ClusterClass.ranges
  | "wordbreak" | "wb" => (WordClass.ofName? value).map WordClass.ranges
  | "sentencebreak" | "sb" => (SentenceClass.ofName? value).map SentenceClass.ranges
  | _ => none

end WebRecipe.Unicode
