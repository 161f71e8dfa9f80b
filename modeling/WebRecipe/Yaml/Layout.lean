import WebRecipe.Yaml.Property
import WebRecipe.Yaml.Scalar

/-!
# Indentation and simple keys

The tokens of a YAML text. The indentation opens and closes blocks, and a value mark makes a key of
what began on its line before it, so the tokens in front of that may be added later.

Outside flow collections a key may only begin at the beginning of a line or after an entry, key or
value mark, and what begins at the column of the open block has to be a key.
-/

namespace WebRecipe.Yaml

/-- Where a key would begin, if a value mark followed. -/
structure KeyCandidate where
  /-- How many tokens come before it. -/
  tokensBefore : Nat
  line : Nat
  column : Nat
  /-- Whether the value mark must follow. -/
  isRequired : Bool

/-- The greatest length of a key that a value mark may follow. -/
def maxKeyLength : Nat := 1024

/-- The state of a reader of tokens. -/
structure Layout where
  rest : List Placed
  /-- The tokens that were read, last first. -/
  done : List Token := []
  /-- The columns of the open blocks, innermost first. -/
  blocks : List Nat := []
  keyAllowed : Bool := true
  /-- Where a key may begin in the innermost flow collection, or outside of all. -/
  candidate : Option KeyCandidate := none
  /-- The same for the collections around it; as many as are open. -/
  outer : List (Option KeyCandidate) := []

namespace Layout

/-- Whether a flow collection is open. -/
def inFlow (s : Layout) : Bool :=
  !s.outer.isEmpty

/-- The least column that is deeper than the innermost block. -/
def margin (s : Layout) : Nat :=
  match s.blocks with
  | [] => 0
  | column :: _ => column + 1

/-- The state with a further token. -/
def emit (s : Layout) (t : Token) : Layout :=
  { s with done := t :: s.done }

/-- The state with tokens put in after the first `n`. -/
def insert (s : Layout) (n : Nat) (ts : List Token) : Layout :=
  let after := s.done.length - n
  { s with done := s.done.take after ++ ts.reverse ++ s.done.drop after }

/-! ### Blocks -/

private def closeFrom (column : Nat) : List Nat → List Token → List Nat × List Token
  | [], done => ([], done)
  | c :: rest, done =>
    if column < c then closeFrom column rest (.blockEnd :: done) else (c :: rest, done)

/-- Closes the blocks that begin after a column. -/
def closeBlocks (s : Layout) (column : Nat) : Layout :=
  if s.inFlow then s
  else
    let (blocks, done) := closeFrom column s.blocks s.done
    { s with blocks, done }

/-- Closes all blocks. -/
def closeAll (s : Layout) : Layout :=
  if s.inFlow then s
  else { s with blocks := [], done := s.blocks.map (fun _ ↦ Token.blockEnd) ++ s.done }

/-- Opens a block at a column, unless one is open there; its token comes after the first `n`. -/
def openBlock (s : Layout) (column n : Nat) (t : Token) : Layout :=
  if s.inFlow || column < s.margin then s
  else { s.insert n [t] with blocks := column :: s.blocks }

/-! ### Keys -/

/-- Whether a key that began at a candidate may still be followed by its value mark at a place. -/
def KeyCandidate.isAlive (k : KeyCandidate) (p : Placed) : Bool :=
  p.line == k.line && p.column ≤ k.column + maxKeyLength

private def survivor (p : Placed) : Option KeyCandidate → Except Fault (Option KeyCandidate)
  | none => .ok none
  | some k =>
    if KeyCandidate.isAlive k p then .ok (some k)
    else if k.isRequired then .error .keyWithoutValue
    else .ok none

/-- Drops the candidates that are too far from a place. -/
def dropStale (s : Layout) (p : Placed) : Except Fault Layout := do
  return { s with candidate := ← survivor p s.candidate, outer := ← s.outer.mapM (survivor p) }

/-- Drops the candidate; one that is required must not be dropped. -/
def dropCandidate (s : Layout) : Except Fault Layout :=
  if s.candidate.any (·.isRequired) then .error .keyWithoutValue
  else .ok { s with candidate := none }

/-- Takes a place as the beginning of a key, where one is allowed. -/
def markKey (s : Layout) (p : Placed) : Except Fault Layout :=
  if s.keyAllowed then do
    let cleared ← s.dropCandidate
    return { cleared with
      candidate := some
        { tokensBefore := s.done.length
          line := p.line
          column := p.column
          isRequired := !s.inFlow && s.blocks.head? == some p.column } }
  else .ok s

/-! ### Blanks and comments -/

/-- The text from the next token on, and whether a key may begin there: a line break outside flow
collections allows it. Tabs do not count as blanks where a key may begin. -/
def skipSpaces (inFlow : Bool) (keyAllowed isComment : Bool) : List Placed → Bool × List Placed
  | [] => (keyAllowed, [])
  | p :: rest =>
    if isBreak p.char then skipSpaces inFlow (keyAllowed || !inFlow) false rest
    else if isComment || (p.column == 0 && p.char == byteOrderMark) then
      skipSpaces inFlow keyAllowed isComment rest
    else if p.char == ' ' || (p.char == '\t' && (inFlow || !keyAllowed)) then
      skipSpaces inFlow keyAllowed false rest
    else if p.char == '#' then skipSpaces inFlow keyAllowed true rest
    else (keyAllowed, p :: rest)

/-! ### Tokens -/

/-- A marker between documents, three characters long. -/
def marker (s : Layout) (t : Token) : Except Fault Layout := do
  let closed ← s.closeAll.dropCandidate
  return { closed with rest := s.rest.drop 3, keyAllowed := false }.emit t

/-- A directive. -/
def directiveLine (s : Layout) : Except Fault Layout := do
  let closed ← s.closeAll.dropCandidate
  let (t, left) ← directive s.rest.tail
  return { closed with rest := left, keyAllowed := false }.emit t

/-- The beginning of a flow collection. -/
def openFlow (s : Layout) (p : Placed) (t : Token) : Except Fault Layout := do
  let marked ← s.markKey p
  return { marked with
    rest := s.rest.tail
    keyAllowed := true
    candidate := none
    outer := marked.candidate :: marked.outer }.emit t

/-- The end of a flow collection. -/
def closeFlow (s : Layout) (t : Token) : Except Fault Layout := do
  let cleared ← s.dropCandidate
  let inner : Layout := match cleared.outer with
    | [] => cleared
    | k :: outer => { cleared with candidate := k, outer }
  return { inner with rest := s.rest.tail, keyAllowed := false }.emit t

/-- A comma between the parts of a flow collection. -/
def flowEntry (s : Layout) : Except Fault Layout := do
  let cleared ← s.dropCandidate
  return { cleared with rest := s.rest.tail, keyAllowed := true }.emit .flowEntry

/-- A hyphen before an item of a block. -/
def blockEntry (s : Layout) (p : Placed) : Except Fault Layout := do
  if !s.inFlow && !s.keyAllowed then .error .entryNotAllowed
  let opened ← (s.openBlock p.column s.done.length .blockSequenceStart).dropCandidate
  return { opened with rest := s.rest.tail, keyAllowed := true }.emit .blockEntry

/-- A question mark before a key. -/
def keyMark (s : Layout) (p : Placed) : Except Fault Layout := do
  if !s.inFlow && !s.keyAllowed then .error .keyNotAllowed
  let opened ← (s.openBlock p.column s.done.length .blockMappingStart).dropCandidate
  return { opened with rest := s.rest.tail, keyAllowed := !s.inFlow }.emit .key

/-- A colon before a value. It makes a key of what began at the candidate. -/
def valueMark (s : Layout) (p : Placed) : Except Fault Layout :=
  match s.candidate with
  | some k =>
    let keyed := s.insert k.tokensBefore [.key]
    let opened := keyed.openBlock k.column k.tokensBefore .blockMappingStart
    .ok ({ opened with rest := s.rest.tail, keyAllowed := false, candidate := none }.emit .value)
  | none =>
    if !s.inFlow && !s.keyAllowed then .error .valueNotAllowed
    else
      let opened := s.openBlock p.column s.done.length .blockMappingStart
      .ok ({ opened with rest := s.rest.tail, keyAllowed := !s.inFlow }.emit .value)

/-- A token that may be the beginning of a key and leaves the rest of the text. -/
def content (s : Layout) (p : Placed) (t : Token) (rest : List Placed) : Except Fault Layout := do
  let marked ← s.markKey p
  return { marked with rest, keyAllowed := false }.emit t

/-- A scalar in quotes. -/
def quotedScalar (s : Layout) (p : Placed) (read : List Placed → Reading String) :
    Except Fault Layout := do
  let (text, rest) ← read s.rest.tail
  s.content p (.scalar text false) rest

/-- A scalar in lines of its own. -/
def blockText (s : Layout) (isFolded : Bool) : Except Fault Layout := do
  let cleared ← s.dropCandidate
  let (text, rest) ← blockScalar isFolded s.margin s.rest.tail
  return { cleared with rest, keyAllowed := true }.emit (.scalar text false)

/-- A plain scalar. -/
def plainScalar (s : Layout) (p : Placed) : Except Fault Layout := do
  let ((text, isBroken), rest) ← plain ⟨s.margin, s.inFlow⟩ [] Gap.none s.rest
  let next ← s.content p (.scalar text true) rest
  return { next with keyAllowed := isBroken }

private def indicators : List Char := "-?:,[]\x7b\x7d#&*!|>\x27\"%@\x60".toList

/-- Whether a plain scalar may begin with a character. -/
def startsPlain (inFlow : Bool) (c : Char) (rest : List Placed) : Bool :=
  (!isSpace c && !indicators.contains c) ||
    (c == '-' && !(rest.head?.any fun p ↦ isBlank p.char)) ||
    (!inFlow && (c == '?' || c == ':') && !atSpace rest)

/-- The token that begins with a character. -/
def token (s : Layout) (p : Placed) (rest : List Placed) : Except Fault Layout :=
  let c := p.char
  let endsMark := s.inFlow || atSpace rest
  if p.column == 0 && c == '%' then s.directiveLine
  else if atMarker '-' s.rest then s.marker .documentStart
  else if atMarker '.' s.rest then s.marker .documentEnd
  else if c == '[' then s.openFlow p .flowSequenceStart
  else if c == '\x7b' then s.openFlow p .flowMappingStart
  else if c == ']' then s.closeFlow .flowSequenceEnd
  else if c == '\x7d' then s.closeFlow .flowMappingEnd
  else if c == ',' then s.flowEntry
  else if c == '-' && atSpace rest then s.blockEntry p
  else if c == '?' && endsMark then s.keyMark p
  else if c == ':' && endsMark then s.valueMark p
  else if c == '*' then do
    let (name, left) ← anchorName rest
    s.content p (.alias name) left
  else if c == '&' then do
    let (name, left) ← anchorName rest
    s.content p (.anchor name) left
  else if c == '!' then do
    let (tag, left) ← tagText s.inFlow rest
    s.content p (.tag tag) left
  else if c == '|' && !s.inFlow then s.blockText false
  else if c == '>' && !s.inFlow then s.blockText true
  else if c == '\x27' then s.quotedScalar p (singleQuoted [] Gap.none)
  else if c == '"' then s.quotedScalar p (doubleQuoted .text [] Gap.none)
  else if startsPlain s.inFlow c rest then s.plainScalar p
  else .error .noToken

/-- Reads the next token, if there is one. -/
def next (s : Layout) : Except Fault Layout :=
  let (keyAllowed, left) := skipSpaces s.inFlow s.keyAllowed false s.rest
  match left with
  | [] => .ok { s with rest := [] }
  | p :: rest => do
    let current ← { s with rest := left, keyAllowed }.dropStale p
    (current.closeBlocks p.column).token p rest

/-- Reads all tokens, at most so many. -/
def run : Nat → Layout → Except Fault Layout
  | 0, s => .ok s
  | fuel + 1, s => if s.rest.isEmpty then .ok s else s.next >>= run fuel

end Layout

/-- The tokens of a text. -/
def tokens (text : String) : Except Fault (List Token) := do
  let ps ← place text
  let last ← Layout.run ps.length { rest := ps }
  let closed ← last.closeAll.dropCandidate
  return closed.done.reverse

end WebRecipe.Yaml
