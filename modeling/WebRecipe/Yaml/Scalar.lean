import WebRecipe.Number.Reading
import WebRecipe.Yaml.Basic

/-!
# Scalars

A plain or quoted scalar is written within the lines. Blanks around a line break vanish; a single
break becomes a blank, and of several breaks the first vanishes. A separator of lines or paragraphs
stays as it is.

A block scalar is written in lines of its own. Its indentation is given in its header or is that of its
first line. A literal scalar keeps its breaks; in a folded one a break between two lines that do not
begin with a blank becomes a blank, or vanishes before empty lines.
-/

namespace WebRecipe.Yaml

/-! ### Gaps -/

/-- The blanks and breaks between two characters that are neither, last first. -/
inductive Gap where
  /-- Blanks of one line. -/
  | blanks (cs : List Char)
  /-- Breaks; blanks around them do not count. -/
  | breaks (cs : List Char)
  /-- Breaks after an escaped one. -/
  | joined (cs : List Char)

namespace Gap

/-- No gap. -/
def none : Gap := .blanks []

/-- Whether the gap leads to another line. -/
def isBroken : Gap → Bool
  | blanks _ => false
  | _ => true

/-- Whether there is no gap. -/
def isNone : Gap → Bool
  | blanks [] => true
  | _ => false

/-- The gap with a further blank or break. -/
def add (c : Char) : Gap → Gap
  | blanks cs => if isBreak c then breaks [c] else blanks (c :: cs)
  | breaks cs => if isBreak c then breaks (c :: cs) else breaks cs
  | joined cs => if isBreak c then joined (c :: cs) else joined cs

/-- What a list of breaks becomes. -/
def fold : List Char → List Char
  | ['\n'] => [' ']
  | '\n' :: rest => rest
  | cs => cs

/-- The text that a gap becomes. -/
def text : Gap → List Char
  | blanks cs => cs.reverse
  | breaks cs => fold cs.reverse
  | joined cs => cs.reverse

/-- A text, last character first, with a gap after it. -/
def close (done : List Char) (gap : Gap) : List Char :=
  gap.text.reverse ++ done

end Gap

/-! ### Quoted scalars -/

private def singleQuote : Char := '\x27'

/-- The rest of a text in single quotes; a quote inside is written twice. -/
def singleQuoted (done : List Char) (gap : Gap) : List Placed → Reading String
  | [] => .error .unclosedQuote
  | p :: rest =>
    if atAnyMarker (p :: rest) then .error .markerInQuotes
    else if isSpace p.char then singleQuoted done (gap.add p.char) rest
    else if p.char == singleQuote then
      match rest with
      | q :: more =>
        if q.char == singleQuote then singleQuoted (singleQuote :: gap.close done) Gap.none more
        else .ok (String.ofList (gap.close done).reverse, rest)
      | [] => .ok (String.ofList (gap.close done).reverse, rest)
    else singleQuoted (p.char :: gap.close done) Gap.none rest

/-- What an escape stands for. -/
inductive Escape where
  | char (c : Char)
  /-- A number of hexadecimal digits follows. -/
  | code (digits : Nat)

/-- The escape that a character after a backslash begins. -/
def Escape.ofChar? : Char → Option Escape
  | '0' => some (.char '\x00')
  | 'a' => some (.char '\x07')
  | 'b' => some (.char '\x08')
  | 't' => some (.char '\t')
  | '\t' => some (.char '\t')
  | 'n' => some (.char '\n')
  | 'v' => some (.char '\x0B')
  | 'f' => some (.char '\x0C')
  | 'r' => some (.char '\r')
  | 'e' => some (.char '\x1B')
  | ' ' => some (.char ' ')
  | '"' => some (.char '"')
  | '/' => some (.char '/')
  | '\\' => some (.char '\\')
  | 'N' => some (.char '\u0085')
  | '_' => some (.char '\u00A0')
  | 'L' => some (.char '\u2028')
  | 'P' => some (.char '\u2029')
  | 'x' => some (.code 2)
  | 'u' => some (.code 4)
  | 'U' => some (.code 8)
  | _ => none

/-- Where a reader of double quotes is. -/
inductive QuoteState where
  | text
  /-- Just after a backslash. -/
  | escape
  /-- In a character code, so many digits before its end. -/
  | code (digits value : Nat)

/-- The rest of a text in double quotes. -/
def doubleQuoted (state : QuoteState) (done : List Char) (gap : Gap) : List Placed → Reading String
  | [] => .error .unclosedQuote
  | p :: rest =>
    match state with
    | .text =>
      if atAnyMarker (p :: rest) then .error .markerInQuotes
      else if isSpace p.char then doubleQuoted .text done (gap.add p.char) rest
      else if p.char == '"' then .ok (String.ofList (gap.close done).reverse, rest)
      else if p.char == '\\' then doubleQuoted .escape (gap.close done) Gap.none rest
      else doubleQuoted .text (p.char :: gap.close done) Gap.none rest
    | .escape =>
      if isBreak p.char then doubleQuoted .text done (.joined []) rest
      else
        match Escape.ofChar? p.char with
        | some (.char c) => doubleQuoted .text (c :: done) Gap.none rest
        | some (.code digits) => doubleQuoted (.code digits 0) done Gap.none rest
        | none => .error .badEscape
    | .code digits value =>
      match digitValue? p.char with
      | none => .error .badEscape
      | some d =>
        let n := value * 16 + d
        if 1 < digits then doubleQuoted (.code (digits - 1) n) done Gap.none rest
        else if n.isValidChar then doubleQuoted .text (Char.ofNat n :: done) Gap.none rest
        else .error .badEscape

/-! ### Plain scalars -/

/-- Where a plain scalar is written. -/
structure PlainPlace where
  /-- The column before which a further line of the scalar may not begin. -/
  margin : Nat
  /-- Inside a flow collection, where the margin does not count. -/
  inFlow : Bool

/-- Whether a plain scalar ends before its next character, a gap after its last one. -/
def PlainPlace.endsAt (place : PlainPlace) (gap : Gap) (p : Placed) (rest : List Placed) : Bool :=
  (gap.isBroken && !place.inFlow && p.column < place.margin) || atAnyMarker (p :: rest) ||
    (!gap.isNone && p.char == '#')

/-- Whether a character ends a plain scalar wherever it stands. -/
def PlainPlace.isEnd (place : PlainPlace) (c : Char) (rest : List Placed) : Bool :=
  (c == ':' && atSpace rest) || (place.inFlow && isFlowMark c)

/-- The rest of a plain scalar, and whether a line break came after it. -/
def plain (place : PlainPlace) (done : List Char) (gap : Gap) :
    List Placed → Reading (String × Bool)
  | [] => .ok ((String.ofList done.reverse, gap.isBroken), [])
  | p :: rest =>
    if isSpace p.char then
      if gap.isBroken && p.char == '\t' && p.column < place.margin then .error .tabInIndentation
      else plain place done (gap.add p.char) rest
    else if place.endsAt gap p rest then
      .ok ((String.ofList done.reverse, gap.isBroken), p :: rest)
    else if place.inFlow && p.char == ':' &&
        (rest.head?.any fun q ↦ isFlowMark q.char || q.char == '?') then .error .colonInFlow
    else if place.isEnd p.char rest then
      .ok ((String.ofList done.reverse, gap.isBroken), p :: rest)
    else plain place (p.char :: gap.close done) Gap.none rest

/-! ### Block scalars -/

/-- What becomes of the breaks at the end of a block scalar. -/
inductive Chomping where
  | strip
  | clip
  | keep
  deriving Repr, DecidableEq

/-- The header of a block scalar. -/
structure BlockHeader where
  isFolded : Bool
  chomping : Chomping := .clip
  /-- By how much the lines are indented, if that is given. -/
  increment : Option Nat := none

namespace BlockHeader

/-- The header with what a character of it says, or `none` if it is not part of a header. -/
def note? (header : BlockHeader) (c : Char) : Option BlockHeader :=
  if c == '+' then some { header with chomping := .keep }
  else if c == '-' then some { header with chomping := .strip }
  else if isDigit c then some { header with increment := digitValue? c }
  else none

private def isChomping (c : Char) : Bool :=
  c == '+' || c == '-'

/-- Whether two characters can be a header together: one of them a digit. -/
private def fit (c d : Char) : Bool :=
  (isChomping c && isDigit d) || (isDigit c && isChomping d)

/-- Reads what a header says after its first mark, at most one character on the indentation and one
on the end. -/
def read (isFolded : Bool) (ps : List Placed) : Except Fault (BlockHeader × List Placed) := do
  let start : BlockHeader := { isFolded }
  let (header, rest) := match ps with
    | [] => (start, [])
    | p :: rest =>
      match start.note? p.char with
      | none => (start, p :: rest)
      | some one =>
        match rest with
        | [] => (one, rest)
        | q :: more =>
          if fit p.char q.char then ((one.note? q.char).getD one, more) else (one, rest)
  if header.increment == some 0 then .error .badBlockHeader
  else return (header, ← endLine .badBlockHeader rest)

end BlockHeader

/-- The indentation spaces and empty lines before the next line: the greatest column reached, the
breaks (last first), and what is left. While the indentation is not known all spaces belong to it. -/
def leadingLines (indent : Option Nat) (widest : Nat) (breaks : List Char) :
    List Placed → Reading (Nat × List Char)
  | [] => .ok ((widest, breaks), [])
  | p :: rest =>
    let isMargin := indent.all (p.column < ·)
    if isMargin && p.char == ' ' then leadingLines indent (max widest (p.column + 1)) breaks rest
    else if isMargin && p.char == '\t' then .error .tabInIndentation
    else if isBreak p.char then leadingLines indent widest (p.char :: breaks) rest
    else .ok ((widest, breaks), p :: rest)

/-- The part of a block scalar that was read: its text, the break after it, the breaks of empty lines
after that, and whether its last line begins with a blank. -/
structure BlockPart where
  text : List Char := []
  lastBreak : List Char := []
  emptyLines : List Char := []
  blankFirst : Bool := false

namespace BlockPart

/-- The part with a further line. -/
def addLine (part : BlockPart) (isFolded : Bool) (line : List Char) : List Char :=
  let blankFirst := line.head?.any isBlank
  let between :=
    if isFolded && part.lastBreak == ['\n'] && !part.blankFirst && !blankFirst then
      (if part.emptyLines.isEmpty then [' '] else part.emptyLines)
    else part.lastBreak ++ part.emptyLines
  part.text ++ between ++ line

/-- The text that is left when the end is chomped. -/
def finish (part : BlockPart) (chomping : Chomping) : String :=
  String.ofList <| match chomping with
    | .strip => part.text
    | .clip => part.text ++ part.lastBreak
    | .keep => part.text ++ part.lastBreak ++ part.emptyLines

end BlockPart

/-- The lines at the indentation, at most so many. -/
def blockLines (isFolded : Bool) (indent : Nat) (part : BlockPart) :
    Nat → List Placed → Except Fault (BlockPart × List Placed)
  | 0, ps => .ok (part, ps)
  | _ + 1, [] => .ok (part, [])
  | fuel + 1, p :: rest =>
    if p.column == indent then do
      let line := ((p :: rest).takeWhile (fun q ↦ !isBreak q.char)).map Placed.char
      let after := skipLine (p :: rest)
      let ((_, breaks), left) ← leadingLines (some indent) 0 [] (skipBreak after)
      let next : BlockPart :=
        { text := part.addLine isFolded line
          lastBreak := (after.head?.map Placed.char).toList
          emptyLines := breaks.reverse
          blankFirst := line.head?.any isBlank }
      blockLines isFolded indent next fuel left
    else .ok (part, p :: rest)

/-- A block scalar after its first mark, the least column of its lines being `margin`. -/
def blockScalar (isFolded : Bool) (margin : Nat) (ps : List Placed) :
    Except Fault (String × List Placed) := do
  let (header, body) ← BlockHeader.read isFolded ps
  let given := header.increment.map (margin - 1 + ·)
  let ((widest, breaks), rest) ← leadingLines given 0 [] body
  let indent := given.getD (max widest (max margin 1))
  let start : BlockPart := { emptyLines := breaks.reverse }
  let (part, left) ← blockLines isFolded indent start (rest.length + 1) rest
  return (part.finish header.chomping, left)

end WebRecipe.Yaml
