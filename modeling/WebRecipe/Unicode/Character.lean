import WebRecipe.Unicode.Category
import WebRecipe.Unicode.Property

/-!
# Properties of a character

What a character of a text is by version 17.0 of the standard: whether it makes up words, whether it has a
case, and whether it is shown as it is.
-/

namespace WebRecipe.Unicode

/-- The added characters of alphabets. -/
def addedAlphabetic : List CodeRange :=
  CodeRange.difference (addedTo (Category.letters ++ [.nl, .mn, .mc])) (CodeRange.table "1acf-1add 1ae0-1aeb")

/-- A letter or another character of an alphabet. -/
def isAlphabetic (c : Char) : Bool :=
  CodeRange.anyContains alphabetic c.toNat || CodeRange.anyContains addedAlphabetic c.toNat

/-- The numbers of every kind. -/
def numericRanges : List CodeRange :=
  rangesOf Category.numbers ++ addedTo Category.numbers

/-- A character of an alphabet or a number of any kind. -/
def isAlphanumeric (c : Char) : Bool :=
  isAlphabetic c || CodeRange.anyContains numericRanges c.toNat

/-- The characters with a case. One that version 16.0 counted among them is a letter without case since. -/
def currentCased : List CodeRange :=
  CodeRange.difference (CodeRange.normalize (cased ++ addedTo [.lu, .ll] ++ CodeRange.table "a7f1"))
    (CodeRange.table "295")

/-- A character with a case. -/
def isCased (c : Char) : Bool :=
  CodeRange.anyContains currentCased c.toNat

/-- A character that is passed over when the case of a neighbour is decided. -/
def isCaseIgnorable (c : Char) : Bool :=
  CodeRange.anyContains caseIgnorable c.toNat || CodeRange.anyContains (addedTo [.mn, .lm]) c.toNat

/-- The characters that are not shown as they are: control and format characters, those for private use,
what is no character, blanks and line breaks, those that extend the character before, and those that are
shown as nothing. -/
def hiddenRanges : List CodeRange :=
  CodeRange.normalize
    (rangesOf [.cc, .cf, .co, .zl, .zp, .zs] ++ stillUnassignedRanges ++ graphemeExtend ++ addedTo [.mn] ++
      defaultIgnorable)

/-- A character that is shown as it is; the space is among them. -/
def isVisible (c : Char) : Bool :=
  c == ' ' || !CodeRange.anyContains hiddenRanges c.toNat

end WebRecipe.Unicode
