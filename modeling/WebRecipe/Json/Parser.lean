import WebRecipe.Json.Basic
import WebRecipe.Number.Reading

/-!
# Reading JSON text

`Json.parse` reads one value with nothing but blanks around it. A repeated key keeps its first place
and its last value. A number without point and exponent that fits 64 bits is an integer; `-0` and
every other number is a double, read as its digits (up to the first digit that leaves 64 bits) times
or over a power of ten, each rounded once. Nesting is limited to 127 levels.

An error names its cause and the place at which reading stopped: a line and a column, both counted
from one line break to the next, the column in bytes.
-/

namespace WebRecipe.Json

/-- Why a text is not a JSON value. -/
inductive ParseCause where
  | endInList
  | endInObject
  | endInString
  | endInValue
  | expectedColon
  | expectedListEnd
  | expectedObjectEnd
  | expectedIdent
  | expectedValue
  | invalidEscape
  | invalidNumber
  | numberOutOfRange
  | controlCharacter
  | keyNotString
  | loneSurrogate
  | trailingComma
  | trailingCharacters
  | endOfHexEscape
  | tooDeep
  deriving Repr, DecidableEq

/-- The wording of a cause. -/
def ParseCause.message : ParseCause → String
  | endInList => "EOF while parsing a list"
  | endInObject => "EOF while parsing an object"
  | endInString => "EOF while parsing a string"
  | endInValue => "EOF while parsing a value"
  | expectedColon => "expected `:`"
  | expectedListEnd => "expected `,` or `]`"
  | expectedObjectEnd => "expected `,` or `\x7d`"
  | expectedIdent => "expected ident"
  | expectedValue => "expected value"
  | invalidEscape => "invalid escape"
  | invalidNumber => "invalid number"
  | numberOutOfRange => "number out of range"
  | controlCharacter => "control character (\\u0000-\\u001F) found while parsing a string"
  | keyNotString => "key must be a string"
  | loneSurrogate => "lone leading surrogate in hex escape"
  | trailingComma => "trailing comma"
  | trailingCharacters => "trailing characters"
  | endOfHexEscape => "unexpected end of hex escape"
  | tooDeep => "recursion limit exceeded"

/-- A step on the way to a part of a document. -/
inductive PlaceStep where
  | item (index : Nat)
  | member (key : String)
  /-- A member whose key was not read. -/
  | unreadMember
  deriving Repr, DecidableEq

/-- Why and where reading stopped: the line and the column, and the way to the part of the document. -/
structure ParseError where
  cause : ParseCause
  line : Nat
  column : Nat
  place : List PlaceStep := []
  deriving Repr, DecidableEq

/-- The wording of an error. -/
def ParseError.message (e : ParseError) : String :=
  e.cause.message ++ " at line " ++ toString e.line ++ " column " ++ toString e.column

/-- The text of one step. -/
def PlaceStep.text : PlaceStep → String
  | item i => "[" ++ toString i ++ "]"
  | member key => key
  | unreadMember => "?"

/-- The text of steps that follow one another; `started` says that some came before. -/
def placeText (started : Bool) : List PlaceStep → String
  | [] => ""
  | step :: rest =>
    let point := match step with
      | .item _ => ""
      | _ => if started then "." else ""
    point ++ step.text ++ placeText true rest

/-- The wording of an error after the way to its place, if anything on the way has a name. -/
def ParseError.placedMessage (e : ParseError) : String :=
  if e.place.all (· == .unreadMember) then e.message
  else placeText false e.place ++ ": " ++ e.message

namespace Parser

/-- What is left to read, and how many bytes were read. -/
structure Cursor where
  rest : List Char
  offset : Nat

/-- A failure at a byte offset. -/
structure Failure where
  cause : ParseCause
  offset : Nat
  place : List PlaceStep := []

/-- A reader moves a cursor or fails. -/
abbrev Reader := StateT Cursor (Except Failure)

/-- Fails at the present offset. -/
def failHere {α : Type} (cause : ParseCause) : Reader α := fun c ↦
  .error ⟨cause, c.offset, []⟩

/-- Fails just after the next byte. -/
def failNext {α : Type} (cause : ParseCause) : Reader α := fun c ↦
  .error ⟨cause, if c.rest.isEmpty then c.offset else c.offset + 1, []⟩

/-- A reader of a part of the document that one step leads to. -/
def within {α : Type} (step : PlaceStep) (r : Reader α) : Reader α := fun c ↦
  match r c with
  | .ok result => .ok result
  | .error f => .error { f with place := step :: f.place }

/-- The next character, which stays. -/
def peek : Reader (Option Char) := fun c ↦
  .ok (c.rest.head?, c)

/-- Moves past the next character. -/
def advance : Reader Unit := fun c ↦
  match c.rest with
  | [] => .ok ((), c)
  | x :: rest => .ok ((), ⟨rest, c.offset + x.utf8Size⟩)

/-- How much is left, as a bound for repetitions. -/
def remaining : Reader Nat := fun c ↦
  .ok (c.rest.length, c)

/-- Whether a character is a blank between the parts of a document. -/
def isSpace (c : Char) : Bool :=
  c == ' ' || c == '\n' || c == '\t' || c == '\r'

/-- Moves past blanks. -/
def skipSpace : Reader Unit := fun c ↦
  let spaces := c.rest.takeWhile isSpace
  .ok ((), ⟨c.rest.dropWhile isSpace, c.offset + spaces.length⟩)

/-- The next character after blanks, which stays. -/
def peekToken : Reader (Option Char) := do
  skipSpace
  peek

/-- Reads the rest of a fixed word. -/
def word : List Char → Reader Unit
  | [] => pure ()
  | expected :: rest => do
    match ← peek with
    | none => failHere .endInValue
    | some c =>
      if c = expected then
        advance
        word rest
      else
        failNext .expectedIdent

/-! ### Numbers -/

/-- The least number that leaves 64 bits. -/
def maxWord : Nat := Nat.pow 2 64

/-- The digits that come next. -/
def takeDigits : Reader (List Char) := fun c ↦
  let ds := c.rest.takeWhile isDigit
  .ok (ds, ⟨c.rest.dropWhile isDigit, c.offset + ds.length⟩)

/-- The longest run of digits whose value fits 64 bits, put after the digits of `n`, and how many
further digits there are. -/
def significant (n : Nat) : List Char → Nat × Nat × Nat
  | [] => (n, 0, 0)
  | c :: rest =>
    let next := n * 10 + (digitValue? c).getD 0
    if next < maxWord then
      let (m, kept, dropped) := significant next rest
      (m, kept + 1, dropped)
    else (n, 0, rest.length + 1)

/-- A number divided by a power of ten, in parts that are doubles themselves. -/
def scaleDown : Nat → Float → Nat → Float
  | 0, x, _ => x
  | fuel + 1, x, e =>
    if e ≤ 308 then x / nearestDouble 1 e
    else scaleDown fuel (x / nearestDouble 1 308) (e - 308)

/-- The double `± n · 10 ^ e`, computed as the double of `n` times or over a power of ten. -/
def scaled (negative : Bool) (n : Nat) (e : Int) : Reader Json := do
  let x := Float.ofNat n
  let signed (y : Float) : Json := .double (if negative then -y else y)
  if e < 0 then
    return signed (scaleDown 5 x e.natAbs)
  else if n = 0 then
    return signed x
  else if e > 308 then
    failHere .numberOutOfRange
  else
    let y := x * nearestDouble 1 e
    if y == 1.0 / 0.0 then failHere .numberOutOfRange else return signed y

/-- The largest exponent that is read digit by digit. -/
def maxExponent : Nat := Nat.pow 2 31 - 1

/-- The digits of an exponent, up to the first that leaves 31 bits. -/
def exponentDigits (exponent : Nat) : Nat → Reader (Option Nat)
  | 0 => pure (some exponent)
  | fuel + 1 => do
    match ← peek with
    | some c =>
      if isDigit c then
        advance
        let next := exponent * 10 + (digitValue? c).getD 0
        if next ≤ maxExponent then exponentDigits next fuel else pure none
      else pure (some exponent)
    | none => pure (some exponent)

/-- An exponent and what it makes of the digits before it. -/
def exponent (negative : Bool) (n : Nat) (e : Int) : Reader Json := do
  advance
  let down ← do
    match ← peek with
    | some '+' => advance; pure false
    | some '-' => advance; pure true
    | _ => pure false
  match ← peek with
  | none => failHere .endInValue
  | some c =>
    if !isDigit c then failNext .invalidNumber
    match ← exponentDigits 0 (← remaining) with
    | some k => scaled negative n (if down then e - k else e + k)
    | none =>
      if n ≠ 0 ∧ !down then failHere .numberOutOfRange
      let _ ← takeDigits
      return .double (if negative then -0.0 else 0.0)

/-- The number that its digits and what follows them write. -/
def afterDigits (negative : Bool) (n : Nat) (e : Int) : Reader Json := do
  match ← peek with
  | some 'e' => exponent negative n e
  | some 'E' => exponent negative n e
  | _ => scaled negative n e

/-- The digits after a point, at least one. -/
def fraction (negative : Bool) (n : Nat) (e : Int) : Reader Json := do
  advance
  let ds ← takeDigits
  if ds.isEmpty then
    match ← peek with
    | some _ => failNext .invalidNumber
    | none => failHere .endInValue
  let (m, kept, _) := significant n ds
  afterDigits negative m (e - kept)

/-- A number without point and exponent. -/
def integer (negative : Bool) (n : Nat) : Json :=
  if negative then
    if n = 0 ∨ Nat.pow 2 63 < n then .double (-(Float.ofNat n)) else .int (-(n : Int))
  else .int n

/-- A number after its sign. -/
def number (negative : Bool) : Reader Json := do
  match ← peek with
  | none => failHere .endInValue
  | some c =>
    if !isDigit c then failNext .invalidNumber
    if c == '0' then
      advance
      match ← peek with
      | some d => if isDigit d then failNext .invalidNumber
      | none => pure ()
      match ← peek with
      | some '.' => fraction negative 0 0
      | some 'e' => exponent negative 0 0
      | some 'E' => exponent negative 0 0
      | _ => return integer negative 0
    else
      let ds ← takeDigits
      let (n, _, dropped) := significant 0 ds
      match ← peek with
      | some '.' => fraction negative n dropped
      | some 'e' => exponent negative n dropped
      | some 'E' => exponent negative n dropped
      | _ => if dropped = 0 then return integer negative n else scaled negative n dropped

/-! ### Strings -/

/-- The bytes of the next characters, up to a count. -/
def hexWindow : Nat → List Char → Nat
  | 0, _ => 0
  | _ + 1, [] => 0
  | n + 1, c :: rest => c.utf8Size + hexWindow n rest

/-- Four hexadecimal digits. -/
def hexEscape : Reader Nat := fun c ↦
  let ds := c.rest.take 4
  if ds.length < 4 ∧ hexWindow 4 c.rest < 4 then
    .error ⟨.endInString, c.offset + hexWindow 4 c.rest, []⟩
  else
    match digitsValue? 16 ds with
    | some n => .ok (n, ⟨c.rest.drop 4, c.offset + 4⟩)
    | none => .error ⟨.invalidEscape, c.offset + 4, []⟩

/-- Reads the character that must continue an escape. -/
def expectEscape (expected : Char) : Reader Unit := do
  match ← peek with
  | none => failHere .endInString
  | some c => if c = expected then advance else failNext .endOfHexEscape

/-- The character of a `\u` escape; two surrogates make one character. -/
def unicodeEscape : Reader Char := do
  let n ← hexEscape
  if 0xDC00 ≤ n ∧ n ≤ 0xDFFF then failHere .loneSurrogate
  if n < 0xD800 ∨ 0xDBFF < n then return Char.ofNat n
  expectEscape '\\'
  expectEscape 'u'
  let m ← hexEscape
  if m < 0xDC00 ∨ 0xDFFF < m then failHere .loneSurrogate
  return Char.ofNat ((n - 0xD800) * 0x400 + (m - 0xDC00) + 0x10000)

/-- The character after a backslash. -/
def escape : Reader Char := do
  match ← peek with
  | none => failHere .endInString
  | some c =>
    match c with
    | '"' => advance; return '"'
    | '\\' => advance; return '\\'
    | '/' => advance; return '/'
    | 'b' => advance; return '\x08'
    | 'f' => advance; return '\x0c'
    | 'n' => advance; return '\n'
    | 'r' => advance; return '\r'
    | 't' => advance; return '\t'
    | 'u' =>
      advance
      unicodeEscape
    | _ => failNext .invalidEscape

/-- The characters of a string up to its closing quote, put before `done` in reverse. -/
def stringRest (done : List Char) : Nat → Reader String
  | 0 => failHere .endInString
  | fuel + 1 => do
    match ← peek with
    | none => failHere .endInString
    | some c =>
      if c == '"' then
        advance
        return String.ofList done.reverse
      else if c == '\\' then
        advance
        let x ← escape
        stringRest (x :: done) fuel
      else if c.toNat < 0x20 then
        failNext .controlCharacter
      else
        advance
        stringRest (c :: done) fuel

/-- A string after its opening quote. -/
def string : Reader String := do
  stringRest [] ((← remaining) + 1)

/-! ### Values -/

/-- The next item of an array, unless the array ends; the first item comes without a comma. -/
def item (value : Reader Json) (isFirst : Bool) : Reader (Option Json) := do
  match ← peekToken with
  | none => failNext .endInList
  | some ']' =>
    advance
    return none
  | some c =>
    if !isFirst then
      if c ≠ ',' then failNext .expectedListEnd
      advance
      match ← peekToken with
      | some ']' => failNext .trailingComma
      | some _ => pure ()
      | none => failNext .endInValue
    return some (← value)

/-- The items of an array after the opening bracket, put before `done` in reverse. -/
def items (value : Reader Json) (done : List Json) : Nat → Reader (List Json)
  | 0 => failNext .endInList
  | fuel + 1 => do
    match ← within (.item done.length) (item value done.isEmpty) with
    | none => return done.reverse
    | some v => items value (v :: done) fuel

/-- The next key of an object, unless the object ends; the first key comes without a comma. -/
def key (isFirst : Bool) : Reader (Option String) := do
  match ← peekToken with
  | none => failNext .endInObject
  | some '\x7d' =>
    advance
    return none
  | some c =>
    if isFirst then
      if c ≠ '"' then failNext .keyNotString
    else
      if c ≠ ',' then failNext .expectedObjectEnd
      advance
      match ← peekToken with
      | some '"' => pure ()
      | some '\x7d' => failNext .trailingComma
      | some _ => failNext .keyNotString
      | none => failNext .endInValue
    advance
    return some (← string)

/-- The value of a member after its key. -/
def valueOfMember (value : Reader Json) : Reader Json := do
  match ← peekToken with
  | some ':' => advance
  | some _ => failNext .expectedColon
  | none => failNext .endInObject
  value

/-- The members of an object after the opening brace, put before `done` in reverse. -/
def members (value : Reader Json) (done : List (String × Json)) : Nat → Reader (List (String × Json))
  | 0 => failNext .endInObject
  | fuel + 1 => do
    match ← within .unreadMember (key done.isEmpty) with
    | none => return done.reverse
    | some k =>
      let v ← within (.member k) (valueOfMember value)
      members value ((k, v) :: done) fuel

/-- A value nested in fewer than `depth` others. -/
def value : Nat → Reader Json
  | 0 => failNext .tooDeep
  | depth + 1 => do
    match ← peekToken with
    | none => failNext .endInValue
    | some c =>
      match c with
      | 'n' => advance; word "ull".toList; return .null
      | 't' => advance; word "rue".toList; return .bool true
      | 'f' => advance; word "alse".toList; return .bool false
      | '-' => advance; number true
      | '"' => advance; return .str (← string)
      | '[' =>
        if depth = 0 then failNext .tooDeep
        advance
        return .arr (← items (value depth) [] ((← remaining) + 1))
      | '\x7b' =>
        if depth = 0 then failNext .tooDeep
        advance
        return .obj (Members.ofList (← members (value depth) [] ((← remaining) + 1)))
      | _ => if isDigit c then number false else failNext .expectedValue

/-- One value, whatever follows. -/
def leading : Reader Json :=
  value 128

/-- One value with blanks around it. -/
def document : Reader Json := do
  let v ← leading
  match ← peekToken with
  | some _ => failNext .trailingCharacters
  | none => return v

/-- The line and column of a byte offset. -/
def locate (offset : Nat) : List Char → Nat → Nat → Nat → Nat × Nat
  | [], at_, line, start => (line, max offset at_ - start)
  | c :: rest, at_, line, start =>
    if offset < at_ + c.utf8Size then (line, offset - start)
    else if c == '\n' then locate offset rest (at_ + 1) (line + 1) (at_ + 1)
    else locate offset rest (at_ + c.utf8Size) line start

end Parser

/-- Reads a text from its first character on. -/
def readAll (r : Parser.Reader Json) (text : String) : Except ParseError Json :=
  let cs := text.toList
  match r ⟨cs, 0⟩ with
  | .ok (v, _) => .ok v
  | .error e =>
    let (line, column) := Parser.locate e.offset cs 0 1 0
    .error ⟨e.cause, line, column, e.place⟩

/-- Reads one value. -/
def parse (text : String) : Except ParseError Json :=
  readAll Parser.document text

/-- Reads the value that a text begins with. -/
def parseLeading (text : String) : Except ParseError Json :=
  readAll Parser.leading text

end WebRecipe.Json
