import WebRecipe.Unicode.Property
import WebRecipe.Unicode.Script

/-!
# Boundaries in a text

The classes of characters by which a text is divided into user-perceived characters, words and
sentences, version 16.0 of the standard.
-/

namespace WebRecipe.Unicode

/-- The marks that take up room, and all that extends the character before. -/
def markRanges : List CodeRange :=
  CodeRange.normalize (graphemeExtend ++ Category.mc.ranges)

/-- The place of a format character that a tag is written with. -/
def tagRanges : List CodeRange :=
  CodeRange.table "e0020-e007f"

/-! ### User-perceived characters -/

/-- A class of characters by which user-perceived characters are told apart. -/
inductive ClusterClass where
  | carriageReturn
  | lineFeed
  | control
  | extend
  | joiner
  | regionalIndicator
  | prepend
  | spacingMark
  | leading
  | vowel
  | trailing
  | openSyllable
  | closedSyllable
  deriving Repr, DecidableEq

namespace ClusterClass

/-- The classes and their names. -/
def named : List (ClusterClass × List String) :=
  [(.carriageReturn, ["cr"]),
    (.lineFeed, ["lf"]),
    (.control, ["control", "cn"]),
    (.extend, ["extend", "ex"]),
    (.joiner, ["zwj"]),
    (.regionalIndicator, ["regionalindicator", "ri"]),
    (.prepend, ["prepend", "pp"]),
    (.spacingMark, ["spacingmark", "sm"]),
    (.leading, ["l"]),
    (.vowel, ["v"]),
    (.trailing, ["t"]),
    (.openSyllable, ["lv"]),
    (.closedSyllable, ["lvt"])]

/-- The syllables of two letters, which stand before those with the same start and a third letter. -/
def openSyllables : List CodeRange :=
  (List.range 399).map fun i ↦ ⟨0xAC00 + 28 * i, 0xAC00 + 28 * i⟩

/-- The characters of a class. -/
def ranges : ClusterClass → List CodeRange
  | carriageReturn => CodeRange.table "d"
  | lineFeed => CodeRange.table "a"
  | control =>
    CodeRange.difference
      (CodeRange.normalize
        (rangesOf [.zl, .zp, .cc, .cf] ++ CodeRange.intersection unassignedRanges defaultIgnorable))
      (prependedMark ++ tagRanges ++ CodeRange.table "a d 200c-200d")
  | extend => CodeRange.normalize (graphemeExtend ++ emojiModifier)
  | joiner => CodeRange.table "200d"
  | regionalIndicator => Unicode.regionalIndicator
  | prepend =>
    CodeRange.normalize
      (prependedMark ++ CodeRange.table "d4e 111c2-111c3 113d1 1193f 11941 11a3a 11a84-11a89 11d46 11f02")
  | spacingMark =>
    CodeRange.normalize
      (CodeRange.difference Category.mc.ranges
        (graphemeExtend ++ CodeRange.table (
          "102b-102c 1038 1062-1064 1067-106d 1083 1087-108c 108f 109a-109c 1a61 1a63-1a64 aa7b aa7d " ++
          "11720-11721")) ++
        CodeRange.table "e33 eb3")
  | leading => CodeRange.table "1100-115f a960-a97c"
  | vowel => CodeRange.table "1160-11a7 d7b0-d7c6 16d63 16d67-16d6a"
  | trailing => CodeRange.table "11a8-11ff d7cb-d7fb"
  | openSyllable => openSyllables
  | closedSyllable => CodeRange.difference (CodeRange.table "ac00-d7a3") openSyllables

/-- The class that has a name. -/
def ofName? (name : String) : Option ClusterClass :=
  (named.find? (·.2.contains name)).map (·.1)

end ClusterClass

/-! ### Words -/

/-- A class of characters by which words are told apart. -/
inductive WordClass where
  | carriageReturn
  | lineFeed
  | newline
  | extend
  | joiner
  | format
  | regionalIndicator
  | katakana
  | hebrewLetter
  | letter
  | singleQuote
  | doubleQuote
  | midNumLet
  | midLetter
  | midNum
  | numeric
  | extendNumLet
  | space
  deriving Repr, DecidableEq

namespace WordClass

/-- The classes and their names. -/
def named : List (WordClass × List String) :=
  [(.carriageReturn, ["cr"]),
    (.lineFeed, ["lf"]),
    (.newline, ["newline", "nl"]),
    (.extend, ["extend"]),
    (.joiner, ["zwj"]),
    (.format, ["format", "fo"]),
    (.regionalIndicator, ["regionalindicator", "ri"]),
    (.katakana, ["katakana", "ka"]),
    (.hebrewLetter, ["hebrewletter", "hl"]),
    (.letter, ["aletter", "le"]),
    (.singleQuote, ["singlequote", "sq"]),
    (.doubleQuote, ["doublequote", "dq"]),
    (.midNumLet, ["midnumlet", "mb"]),
    (.midLetter, ["midletter", "ml"]),
    (.midNum, ["midnum", "mn"]),
    (.numeric, ["numeric", "nu"]),
    (.extendNumLet, ["extendnumlet", "ex"]),
    (.space, ["wsegspace"])]

/-- The format characters that belong to the word around them. -/
def formatRanges : List CodeRange :=
  CodeRange.difference Category.cf.ranges (tagRanges ++ CodeRange.table "600-605 6dd 70f 890-891 8e2 200b-200d 110bd 110cd")

/-- The letters of katakana and what stands among them. -/
def katakanaRanges : List CodeRange :=
  CodeRange.normalize
    (Script.rangesOf "katakana" ++ CodeRange.table "3031-3035 309b-309c 30a0 30fc ff70")

/-- The letters of hebrew. -/
def hebrewRanges : List CodeRange :=
  CodeRange.intersection (Script.rangesOf "hebrew") Category.lo.ranges

/-- The scripts whose words are not set off by blanks. -/
def joinedScripts : List String :=
  ["thai", "lao", "khmer", "myanmar", "hiragana"]

/-- The letters that make up words, those of katakana and hebrew apart. -/
def letterRanges : List CodeRange :=
  CodeRange.normalize
    (CodeRange.difference alphabetic
      (ideographic ++ katakanaRanges ++ hebrewRanges ++ markRanges ++
        joinedScripts.flatMap Script.rangesOf ++
        CodeRange.table (
          "1950-196d 1970-1974 1980-19ab 19b0-19c9 1a20-1a54 1aa7 aa80-aaaf aab1 aab5-aab6 aab9-aabd " ++
          "aac0 aac2 aadb-aadd 11700-1171a 11740-11746")) ++
      CodeRange.table (
        "2c2-2c5 2d2-2d7 2de-2df 2e5-2eb 2ed 2ef-2ff 55a-55c 55e 58a 5f3 70f a708-a716 a720-a721 " ++
        "a789-a78a ab5b"))

/-- The digits and what stands among them. -/
def numericRanges : List CodeRange :=
  CodeRange.normalize
    (Category.nd.ranges ++ CodeRange.table "600-605 66b 6dd 890-891 8e2 19da 110bd 110cd")

/-- The characters of a class. -/
def ranges : WordClass → List CodeRange
  | carriageReturn => CodeRange.table "d"
  | lineFeed => CodeRange.table "a"
  | newline => CodeRange.table "b-c 85 2028-2029"
  | extend => CodeRange.normalize (markRanges ++ emojiModifier)
  | joiner => CodeRange.table "200d"
  | format => formatRanges
  | regionalIndicator => Unicode.regionalIndicator
  | katakana => katakanaRanges
  | hebrewLetter => hebrewRanges
  | letter => letterRanges
  | singleQuote => CodeRange.table "27"
  | doubleQuote => CodeRange.table "22"
  | midNumLet => Unicode.midNumLet
  | midLetter => Unicode.midLetter
  | midNum => CodeRange.table "2c 3b 37e 589 60c-60d 66c 7f8 2044 fe50 fe54 ff0c ff1b"
  | numeric => numericRanges
  | extendNumLet => CodeRange.normalize (Category.pc.ranges ++ CodeRange.table "202f")
  | space => CodeRange.difference Category.zs.ranges (CodeRange.table "a0 2007 202f")

/-- The class that has a name. -/
def ofName? (name : String) : Option WordClass :=
  (named.find? (·.2.contains name)).map (·.1)

end WordClass

/-! ### Sentences -/

/-- A class of characters by which sentences are told apart. -/
inductive SentenceClass where
  | carriageReturn
  | lineFeed
  | separator
  | extend
  | format
  | space
  | lower
  | upper
  | letter
  | numeric
  | fullStop
  | continuing
  | terminator
  | closing
  deriving Repr, DecidableEq

namespace SentenceClass

/-- The classes and their names. -/
def named : List (SentenceClass × List String) :=
  [(.carriageReturn, ["cr"]),
    (.lineFeed, ["lf"]),
    (.separator, ["sep", "se"]),
    (.extend, ["extend", "ex"]),
    (.format, ["format", "fo"]),
    (.space, ["sp"]),
    (.lower, ["lower", "lo"]),
    (.upper, ["upper", "up"]),
    (.letter, ["oletter", "le"]),
    (.numeric, ["numeric", "nu"]),
    (.fullStop, ["aterm", "at"]),
    (.continuing, ["scontinue", "sc"]),
    (.terminator, ["sterm", "st"]),
    (.closing, ["close", "cl"])]

/-- Marks and joiners. -/
def extendRanges : List CodeRange :=
  CodeRange.normalize (markRanges ++ CodeRange.table "200d")

/-- The letters of lower case, those of a script apart that is mostly written without case. -/
def lowerRanges : List CodeRange :=
  CodeRange.difference lowercase (extendRanges ++ CodeRange.table "10d0-10fa 10fd-10ff")

/-- The letters of upper case, those of a script apart that is mostly written without case. -/
def upperRanges : List CodeRange :=
  CodeRange.difference (CodeRange.normalize (uppercase ++ Category.lt.ranges))
    (CodeRange.table "1c90-1cba 1cbd-1cbf")

/-- The full stops. -/
def fullStops : List CodeRange :=
  CodeRange.table "2e 2024 fe52 ff0e"

/-- The characters of a class. -/
def ranges : SentenceClass → List CodeRange
  | carriageReturn => CodeRange.table "d"
  | lineFeed => CodeRange.table "a"
  | separator => CodeRange.table "85 2028-2029"
  | extend => extendRanges
  | format =>
    CodeRange.normalize (WordClass.format.ranges ++ CodeRange.table "70f 200b")
  | space => CodeRange.difference whiteSpace (CodeRange.table "a d 85 2028-2029")
  | lower => lowerRanges
  | upper => upperRanges
  | letter =>
    CodeRange.normalize
      (CodeRange.difference alphabetic (lowerRanges ++ upperRanges ++ extendRanges) ++
        CodeRange.table "5f3")
  | numeric => CodeRange.normalize (WordClass.numeric.ranges ++ CodeRange.table "66c")
  | fullStop => fullStops
  | continuing =>
    CodeRange.table (
      "2c-2d 3a-3b 37e 55d 60c-60d 7f8 1802 1808 2013-2014 3001 fe10-fe11 fe13-fe14 fe31-fe32 " ++
      "fe50-fe51 fe54-fe55 fe58 fe63 ff0c-ff0d ff1a-ff1b ff64")
  | terminator => CodeRange.difference sentenceTerminal fullStops
  | closing =>
    CodeRange.normalize
      (CodeRange.difference (CodeRange.normalize (rangesOf [.ps, .pe, .pi, .pf] ++ quotationMark))
        (CodeRange.table "ff02 ff07") ++
        CodeRange.table "275b-2760 2e00-2e01 2e06-2e08 2e0b 1f676-1f678")

/-- The class that has a name. -/
def ofName? (name : String) : Option SentenceClass :=
  (named.find? (·.2.contains name)).map (·.1)

end SentenceClass
end WebRecipe.Unicode
