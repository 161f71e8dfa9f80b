import WebRecipe.Number.Reading
import WebRecipe.Yaml.Basic

/-!
# Anchors, tags and directives

What may stand before a node, or before a document, apart from its content. Each reader begins after
the mark that announces it.
-/

namespace WebRecipe.Yaml

/-! ### Tokens of YAML

The marks, properties and scalars that a YAML text consists of. Blocks begin and end with tokens of
their own, which the indentation decides. -/

/-- A tag as it is written: a handle that stands for the beginning, and the rest. Without a handle the
rest is the whole tag. -/
structure TagText where
  handle : Option String
  rest : String
  deriving Repr, DecidableEq

/-- A token. -/
inductive Token where
  | version (major minor : Nat)
  | tagHandle (handle beginning : String)
  | documentStart
  | documentEnd
  | blockSequenceStart
  | blockMappingStart
  | blockEnd
  | flowSequenceStart
  | flowSequenceEnd
  | flowMappingStart
  | flowMappingEnd
  | blockEntry
  | flowEntry
  | key
  | value
  | alias (name : String)
  | anchor (name : String)
  | tag (text : TagText)
  /-- A scalar; a plain one is written without quotes and block marks. -/
  | scalar (text : String) (isPlain : Bool)
  deriving Repr, DecidableEq

/-! ### Names -/

/-- Whether an anchor name may end before a character. -/
def mayFollowAnchor (c : Char) : Bool :=
  isSpace c || c == '?' || c == ':' || c == ',' || c == ']' || c == '\x7d' || c == '%' || c == '@' ||
    c == '\x60'

/-- The name of an anchor or alias. -/
def anchorName (ps : List Placed) : Reading String :=
  let (name, rest) := takeName ps
  if name.isEmpty || !(rest.head?.all fun p ↦ mayFollowAnchor p.char) then .error .badAnchor
  else .ok (String.ofList name, rest)

/-! ### Tags -/

/-- The least value of the characters that are written in a number of bytes, and the bits that the
first byte holds, as the first byte tells. -/
private def leadOf? (byte : Nat) : Option (Nat × Nat) :=
  if byte < 0x80 then some (1, byte)
  else if 0xC0 ≤ byte ∧ byte < 0xE0 then some (2, byte - 0xC0)
  else if 0xE0 ≤ byte ∧ byte < 0xF0 then some (3, byte - 0xE0)
  else if 0xF0 ≤ byte ∧ byte < 0xF8 then some (4, byte - 0xF0)
  else none

/-- A byte that is written as two hexadecimal digits after a percent sign. -/
private def escapedByte? : List Placed → Option (Nat × List Placed)
  | p :: q :: r :: rest =>
    if p.char == '%' then (digitsValue? 16 [q.char, r.char]).map fun n ↦ (n, rest) else none
  | _ => none

private def followingBytes? (value : Nat) : Nat → List Placed → Option (Nat × List Placed)
  | 0, ps => some (value, ps)
  | n + 1, ps =>
    match escapedByte? ps with
    | some (byte, rest) =>
      if 0x80 ≤ byte ∧ byte < 0xC0 then followingBytes? (value * 64 + (byte - 0x80)) n rest else none
    | none => none

/-- A character whose bytes are all escaped. -/
def escapedChar? (ps : List Placed) : Option (Char × List Placed) := do
  let (byte, rest) ← escapedByte? ps
  let (length, bits) ← leadOf? byte
  let (value, left) ← followingBytes? bits (length - 1) rest
  return (Char.ofNat value, left)

private def uriMarks : List Char := ";/?:@&=+$.!~*\x27()%".toList

/-- A character of a tag; some marks may only stand where brackets or a line's end close the tag. -/
def isTagChar (isEnclosed : Bool) (c : Char) : Bool :=
  isNameChar c || uriMarks.contains c || (isEnclosed && (c == ',' || c == '[' || c == ']'))

/-- The characters of a tag, put after `done`; at most so many. -/
def tagChars (isEnclosed : Bool) (done : List Char) : Nat → List Placed → Reading String
  | 0, _ => .error .badTag
  | _ + 1, [] => .ok (String.ofList done.reverse, [])
  | fuel + 1, p :: rest =>
    if p.char == '%' then
      match escapedChar? (p :: rest) with
      | some (c, left) => tagChars isEnclosed (c :: done) fuel left
      | none => .error .badTag
    else if isTagChar isEnclosed p.char then tagChars isEnclosed (p.char :: done) fuel rest
    else .ok (String.ofList done.reverse, p :: rest)

/-- The rest of a tag, put after what was read of it. -/
def tagRest (isEnclosed : Bool) (start : List Char) (ps : List Placed) : Reading String :=
  tagChars isEnclosed start.reverse (ps.length + 1) ps

/-- Whether a tag may end here. -/
private def mayEndTag (inFlow : Bool) (ps : List Placed) : Bool :=
  atSpace ps || (inFlow && startsWith ',' ps)

/-- A tag after its exclamation mark: a whole tag in angle brackets, the rest of one after a named
handle, or the rest of one after the handle that is a mere exclamation mark. The mark alone is a whole
tag. -/
def tagText (inFlow : Bool) (ps : List Placed) : Except Fault (TagText × List Placed) := do
  let (text, rest) ←
    if startsWith '<' ps then do
      let (whole, rest) ← tagRest true [] ps.tail
      if whole.isEmpty || !startsWith '>' rest then .error .badTag
      pure (TagText.mk none whole, rest.tail)
    else do
      let (name, rest) := takeName ps
      if startsWith '!' rest then do
        let (tail, left) ← tagRest false [] rest.tail
        if tail.isEmpty then .error .badTag
        pure (TagText.mk (some (String.ofList ('!' :: name ++ ['!']))) tail, left)
      else do
        let (tail, left) ← tagRest false name rest
        pure (if tail.isEmpty then TagText.mk none "!" else TagText.mk (some "!") tail, left)
  if mayEndTag inFlow rest then return (text, rest) else .error .badTag

/-! ### Directives -/

/-- The most digits in the number of a version. -/
private def maxVersionDigits : Nat := 9

private def versionNumber (ps : List Placed) : Reading Nat :=
  let digits := (ps.takeWhile (fun p ↦ isDigit p.char)).map Placed.char
  if digits.isEmpty || maxVersionDigits < digits.length then .error .badDirective
  else
    match digitsValue? 10 digits with
    | some n => .ok (n, ps.dropWhile (fun p ↦ isDigit p.char))
    | none => .error .badDirective

private def versionValue (ps : List Placed) : Except Fault (Token × List Placed) := do
  let (major, rest) ← versionNumber (skipBlanks ps)
  if !startsWith '.' rest then .error .badDirective
  let (minor, left) ← versionNumber rest.tail
  return (.version major minor, left)

/-- A handle: an exclamation mark, alone or with another one after a name. -/
private def handleText (ps : List Placed) : Except Fault (String × List Placed) := do
  if !startsWith '!' ps then .error .badDirective
  let (name, rest) := takeName ps.tail
  if startsWith '!' rest then return (String.ofList ('!' :: name ++ ['!']), rest.tail)
  else if name.isEmpty then return ("!", rest)
  else .error .badDirective

private def handleValue (ps : List Placed) : Except Fault (Token × List Placed) := do
  let (handle, rest) ← handleText (skipBlanks ps)
  if !(rest.head?.any fun p ↦ isBlank p.char) then .error .badDirective
  let (beginning, left) ← tagRest true [] (skipBlanks rest)
  if beginning.isEmpty || !atSpace left then .error .badDirective
  return (.tagHandle handle beginning, left)

/-- A directive after its percent sign, and the rest of its line. -/
def directive (ps : List Placed) : Except Fault (Token × List Placed) := do
  let (name, rest) := takeName ps
  if !atSpace rest then .error .badDirective
  let (token, left) ←
    if name == "YAML".toList then versionValue rest
    else if name == "TAG".toList then handleValue rest
    else .error .badDirective
  return (token, ← endLine .badDirective left)

end WebRecipe.Yaml
