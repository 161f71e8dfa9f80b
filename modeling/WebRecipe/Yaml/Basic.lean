/-!
# Characters of a YAML text

A YAML text is read as a list of characters that know their line and column. All line breaks but the
two separators are written alike, so a break is one character.
-/

namespace WebRecipe.Yaml

/-- Why a text is not a single YAML document that has a JSON value. -/
inductive Fault where
  /-- A character that may not stand in a document. -/
  | unprintable
  /-- A character with which nothing can begin. -/
  | noToken
  | tabInIndentation
  | entryNotAllowed
  | keyNotAllowed
  | valueNotAllowed
  /-- A key that must be one, but no value mark follows it on its line. -/
  | keyWithoutValue
  | badDirective
  | badAnchor
  | badTag
  | badBlockHeader
  | unclosedQuote
  /-- A document marker inside a quoted text. -/
  | markerInQuotes
  | badEscape
  /-- A colon just before a mark of a flow collection. -/
  | colonInFlow
  /-- A token where another one is needed. -/
  | unexpectedToken
  | undefinedHandle
  | unknownAnchor
  | severalDocuments
  | tooDeep
  | tooManyAliases
  /-- A tag that only an application understands. -/
  | privateTag
  /-- A text that does not fit its tag. -/
  | tagMismatch
  | keyNotScalar
  | integerTooLarge
  deriving Repr, DecidableEq

/-- A character at its place. Lines and columns are counted from zero, in characters. -/
structure Placed where
  char : Char
  line : Nat
  column : Nat
  deriving Repr, DecidableEq

/-- What a reader made of the beginning of a text, and what is left of it. -/
abbrev Reading (α : Type) := Except Fault (α × List Placed)

/-! ### Classes of characters -/

/-- A line break. -/
def isBreak (c : Char) : Bool :=
  c == '\n' || c == '\u2028' || c == '\u2029'

/-- A blank within a line. -/
def isBlank (c : Char) : Bool :=
  c == ' ' || c == '\t'

/-- A blank or a line break. -/
def isSpace (c : Char) : Bool :=
  isBlank c || isBreak c

/-- A character of a name: a letter or digit of ASCII, a hyphen or an underscore. -/
def isNameChar (c : Char) : Bool :=
  ('a' ≤ c && c ≤ 'z') || ('A' ≤ c && c ≤ 'Z') || ('0' ≤ c && c ≤ '9') || c == '-' || c == '_'

/-- A character that may stand in a document. -/
def isPrintable (c : Char) : Bool :=
  let n := c.toNat
  n == 0x09 || n == 0x0A || n == 0x0D || (0x20 ≤ n && n ≤ 0x7E) || n == 0x85 ||
    (0xA0 ≤ n && n ≤ 0xFFFD) || 0x10000 ≤ n

/-- The mark of byte order, which may stand at the beginning of a line. -/
def byteOrderMark : Char := '\uFEFF'

/-- A mark that separates the parts of a flow collection or closes it. -/
def isFlowMark (c : Char) : Bool :=
  c == ',' || c == '[' || c == ']' || c == '\x7b' || c == '\x7d'

/-! ### Places -/

/-- The text with every line break, but the two separators, written as a line feed. -/
def unifyBreaks : List Char → List Char
  | [] => []
  | '\r' :: '\n' :: rest => '\n' :: unifyBreaks rest
  | c :: rest => (if c == '\r' || c == '\u0085' then '\n' else c) :: unifyBreaks rest

/-- The characters with their places, the first at the given one. -/
def placeFrom (line column : Nat) : List Char → List Placed
  | [] => []
  | c :: rest =>
    ⟨c, line, column⟩ ::
      (if isBreak c then placeFrom (line + 1) 0 rest else placeFrom line (column + 1) rest)

/-- The characters of a text with their places, if all of them may stand in a document. -/
def place (text : String) : Except Fault (List Placed) :=
  if text.toList.all isPrintable then .ok (placeFrom 0 0 (unifyBreaks text.toList))
  else .error .unprintable

/-! ### Looking ahead -/

/-- Whether a blank, a break or the end comes next. -/
def atSpace : List Placed → Bool
  | [] => true
  | p :: _ => isSpace p.char

/-- Whether a break or the end comes next. -/
def atBreak : List Placed → Bool
  | [] => true
  | p :: _ => isBreak p.char

/-- Whether the text begins with a character. -/
def startsWith (c : Char) : List Placed → Bool
  | [] => false
  | p :: _ => p.char == c

/-- Whether a line begins here with three of a character and nothing or a space after them. -/
def atMarker (c : Char) : List Placed → Bool
  | p :: q :: r :: rest =>
    p.column == 0 && p.char == c && q.char == c && r.char == c && atSpace rest
  | _ => false

/-- Whether a marker between documents stands here. -/
def atAnyMarker (ps : List Placed) : Bool :=
  atMarker '-' ps || atMarker '.' ps

/-- The text without the blanks that it begins with. -/
def skipBlanks (ps : List Placed) : List Placed :=
  ps.dropWhile (fun p ↦ isBlank p.char)

/-- The text from the end of its first line on. -/
def skipLine (ps : List Placed) : List Placed :=
  ps.dropWhile (fun p ↦ !isBreak p.char)

/-- The text without the break that it begins with. -/
def skipBreak : List Placed → List Placed
  | [] => []
  | p :: rest => if isBreak p.char then rest else p :: rest

/-- The rest of a line that holds nothing more than a comment, if that is so, is passed with its
break. -/
def endLine (fault : Fault) (ps : List Placed) : Except Fault (List Placed) :=
  let blankless := skipBlanks ps
  let rest := if startsWith '#' blankless then skipLine blankless else blankless
  if atBreak rest then .ok (skipBreak rest) else .error fault

/-- The name that the text begins with, which may be empty. -/
def takeName (ps : List Placed) : List Char × List Placed :=
  ((ps.takeWhile (fun p ↦ isNameChar p.char)).map Placed.char,
    ps.dropWhile (fun p ↦ isNameChar p.char))

end WebRecipe.Yaml
