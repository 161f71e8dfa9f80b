import WebRecipe.Pattern.Basic
import WebRecipe.Pattern.Switches
import WebRecipe.Text.Search
import WebRecipe.Unicode.Case
import WebRecipe.Unicode.Named

/-!
# Escapes in patterns

A backslash takes the meaning from a sign that has one, or it introduces a character by its number, a
place, or a set of characters: digits, blanks and the characters of words, or a set with a name. Without
the switch `u` a pattern knows only the letters of ASCII, and a set must not go beyond ASCII.
-/

namespace WebRecipe.Pattern

open WebRecipe.Text
open WebRecipe.Unicode (CodeRange Category)

/-- What a backslash and the characters after it stand for. -/
inductive Escape where
  | char (c : Char)
  /-- A character written by two hexadecimal digits, which without `u` is a byte. -/
  | byte (c : Char)
  | place (p : Place)
  | set (ranges : List CodeRange)
  deriving Repr

/-! ### Sets -/

namespace Switches

/-- The set with the characters that are the same where case does not count. -/
def fold (s : Switches) (rs : List CodeRange) : List CodeRange :=
  if !s.caseless then CodeRange.normalize rs
  else if s.unicode then Unicode.closeUnderCase rs
  else Unicode.closeUnderAsciiCase rs

/-- The set, unless it goes beyond ASCII where it must not. -/
def checked (s : Switches) (rs : List CodeRange) : Result (List CodeRange) :=
  if s.unicode || rs.all (·.last < 0x80) then .ok rs else .error .notText

/-- The set or its complement, where case counts or not. -/
def close (s : Switches) (negated : Bool) (rs : List CodeRange) : Result (List CodeRange) :=
  let folded := s.fold rs
  s.checked (if negated then CodeRange.complement folded else folded)

end Switches

/-! ### Characters by their numbers -/

/-- The character with a number in hexadecimal. -/
def charOf? (digits : List Char) : Option Char :=
  match digitsValue? 16 digits with
  | some n => if h : n.isValidChar then some (Char.ofNatAux n h) else none
  | none => none

/-- A hexadecimal digit. -/
def isHexDigit (c : Char) : Bool :=
  (digitValue? c).isSome

/-- Reads the number of a character, in braces or with `count` digits. -/
def hexEscape (s : Switches) (count : Nat) (cs : List Char) : Result (Escape × List Char) :=
  match s.gap cs with
  | '\x7b' :: rest =>
    match s.span isHexDigit rest.length (s.gap rest) with
    | ([], _) => .error .escape
    | (digits, '\x7d' :: after) =>
      match charOf? digits with
      | some c => .ok (.char c, after)
      | none => .error .escape
    | _ => .error .escape
  | cs =>
    let (digits, after) := s.span isHexDigit count cs
    if digits.length < count then .error .escape
    else
      match charOf? digits with
      | some c => .ok (if count = 2 then .byte c else .char c, after)
      | none => .error .escape

/-! ### Sets with names -/

/-- What stands before and after the first occurrence of a sign. -/
def splitAt? (sign cs : List Char) : Option (List Char × List Char) :=
  (find? sign cs).map fun i ↦ (cs.take i, cs.drop (i + sign.length))

/-- The set that a name stands for, or a property and a value, and whether it is to be negated. -/
def propertySet? (name : List Char) : Option (List CodeRange × Bool) :=
  match splitAt? ['!', '='] name with
  | some (property, value) => (Unicode.valuedRanges? property value).map (·, true)
  | none =>
    match (splitAt? [':'] name).or (splitAt? ['='] name) with
    | some (property, value) => (Unicode.valuedRanges? property value).map (·, false)
    | none => (Unicode.namedRanges? name).map (·, false)

/-- Reads the name of a set: one letter, or any name in braces. -/
def propertyName (s : Switches) (cs : List Char) : Result (List Char × List Char) :=
  match s.gap cs with
  | [] => .error .escape
  | '\x7b' :: rest =>
    match s.span (· != '\x7d') rest.length (s.gap rest) with
    | (name, _ :: after) => .ok (name, after)
    | _ => .error .escape
  | c :: rest => if c == '\\' then .error .escape else .ok ([c], s.gap rest)

/-- Reads the name of a set and gives the set. -/
def propertyEscape (s : Switches) (negated : Bool) (cs : List Char) :
    Result (Escape × List Char) := do
  let (name, after) ← propertyName s cs
  let some (ranges, unequal) := propertySet? name | .error .unknownProperty
  if !s.unicode then throw .notText
  return (.set (← s.close (negated != unequal) ranges), after)

/-! ### Sets with a letter -/

/-- The decimal digits of ASCII. -/
def asciiDigits : List CodeRange := CodeRange.table "30-39"

/-- The blanks of ASCII. -/
def asciiBlanks : List CodeRange := CodeRange.table "9-d 20"

/-- The characters of words of ASCII. -/
def asciiWords : List CodeRange := CodeRange.table "30-39 41-5a 5f 61-7a"

/-- The set of a letter: digits, blanks or the characters of words, and of a capital their complement. -/
def letterSet (s : Switches) (c : Char) : Result (List CodeRange) :=
  let ranges :=
    match c.toLower with
    | 'd' => if s.unicode then Category.nd.ranges else asciiDigits
    | 's' => if s.unicode then Unicode.whiteSpace else asciiBlanks
    | _ => if s.unicode then Unicode.wordRanges else asciiWords
  s.checked (if c.isUpper then CodeRange.complement ranges else ranges)

/-! ### Places -/

/-- A character of the name of a place. -/
def inPlaceName (c : Char) : Bool :=
  c.isAlpha || c == '-'

/-- Reads which place of a word is meant, after `\b`. Braces that do not name a place are left for a
repetition. -/
def boundaryEscape (s : Switches) (cs : List Char) : Result (Escape × List Char) :=
  let ascii := !s.unicode
  match cs with
  | '\x7b' :: rest =>
    match s.span inPlaceName rest.length (s.gap rest) with
    | ([], []) => .error .escape
    | ([], _) => .ok (.place (.wordBoundary ascii), cs)
    | (name, '\x7d' :: after) =>
      match String.ofList name with
      | "start" => .ok (.place (.wordStart ascii), after)
      | "end" => .ok (.place (.wordEnd ascii), after)
      | "start-half" => .ok (.place (.wordStartHalf ascii), after)
      | "end-half" => .ok (.place (.wordEndHalf ascii), after)
      | _ => .error .escape
    | _ => .error .escape
  | _ => .ok (.place (.wordBoundary ascii), cs)

/-! ### All escapes -/

/-- Whether a backslash takes the meaning from a character. -/
def isEscapable (c : Char) : Bool :=
  c.toNat < 0x80 && !c.isAlphanum && c != '<' && c != '>'

/-- Reads what follows a backslash. -/
def readEscape (s : Switches) : List Char → Result (Escape × List Char)
  | [] => .error .escape
  | c :: rest =>
    let ascii := !s.unicode
    if isDigit c then .error .backreference
    else
      match c with
      | 'x' => hexEscape s 2 rest
      | 'u' => hexEscape s 4 rest
      | 'U' => hexEscape s 8 rest
      | 'p' => propertyEscape s false rest
      | 'P' => propertyEscape s true rest
      | 'd' | 's' | 'w' | 'D' | 'S' | 'W' => do return (.set (← letterSet s c), rest)
      | 'a' => .ok (.char '\x07', rest)
      | 'f' => .ok (.char '\x0c', rest)
      | 't' => .ok (.char '\t', rest)
      | 'n' => .ok (.char '\n', rest)
      | 'r' => .ok (.char '\r', rest)
      | 'v' => .ok (.char '\x0b', rest)
      | 'A' => .ok (.place .textStart, rest)
      | 'z' => .ok (.place .textEnd, rest)
      | 'b' => boundaryEscape s rest
      | 'B' => .ok (.place (.notWordBoundary ascii), rest)
      | '<' => .ok (.place (.wordStart ascii), rest)
      | '>' => .ok (.place (.wordEnd ascii), rest)
      | _ => if isEscapable c then .ok (.char c, rest) else .error .escape

end WebRecipe.Pattern
