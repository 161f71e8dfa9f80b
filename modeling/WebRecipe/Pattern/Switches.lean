import WebRecipe.Number.Reading
import WebRecipe.Text.Blank

/-!
# Switches in patterns

What can be switched on and off inside a pattern, such as whether case counts, and what goes wrong when a
pattern is read. One switch lets blanks and comments stand between the characters of a pattern; the
functions here pass over them.
-/

namespace WebRecipe.Pattern

open WebRecipe.Text

/-- Why a text is no pattern. -/
inductive ReadError where
  | repetitionWithoutOperand
  | repetitionCount
  | groupNotClosed
  | groupNotOpened
  | groupName
  | classNotClosed
  | classRange
  | escape
  | backreference
  | lookAround
  | switches
  | unknownProperty
  | notText
  | tooDeep
  | tooLarge
  deriving Repr, DecidableEq

namespace ReadError

/-- What is said about an error in the written form. -/
def detail : ReadError → String
  | repetitionWithoutOperand => "repetition operator missing expression"
  | repetitionCount => "repetition quantifier expects a valid decimal range"
  | groupNotClosed => "unclosed group"
  | groupNotOpened => "unopened group"
  | groupName => "invalid capture group name"
  | classNotClosed => "unclosed character class"
  | classRange => "invalid character class range"
  | escape => "invalid escape sequence"
  | backreference => "backreferences are not supported"
  | lookAround => "look-around is not supported"
  | switches => "invalid group switches"
  | unknownProperty => "Unicode property not found"
  | notText => "pattern can match invalid text"
  | tooDeep => "pattern is nested too deeply"
  | tooLarge => ""

/-- The wording of an error. -/
def message (e : ReadError) : String :=
  match e with
  | tooLarge => "Compiled regex exceeds size limit of 10485760 bytes."
  | _ => "regex parse error: " ++ e.detail

end ReadError

/-- What is read, or why nothing is. -/
abbrev Result := Except ReadError

/-- The switches in force at a place of a pattern. -/
structure Switches where
  caseless : Bool := false
  multiLine : Bool := false
  dotAll : Bool := false
  swapGreed : Bool := false
  unicode : Bool := true
  carriage : Bool := false
  blanks : Bool := false
  deriving Repr, DecidableEq

namespace Switches

/-- The switches with the one that a letter stands for turned on or off. -/
def set? (s : Switches) (on : Bool) : Char → Option Switches
  | 'i' => some { s with caseless := on }
  | 'm' => some { s with multiLine := on }
  | 's' => some { s with dotAll := on }
  | 'U' => some { s with swapGreed := on }
  | 'u' => some { s with unicode := on }
  | 'R' => some { s with carriage := on }
  | 'x' => some { s with blanks := on }
  | _ => none

/-! ### Blanks and comments -/

/-- What follows the blanks and comments at the start of a text. -/
def dropIgnored (inComment : Bool) : List Char → List Char
  | [] => []
  | c :: rest =>
    if inComment then dropIgnored (c != '\n') rest
    else if isBlank c then dropIgnored false rest
    else if c == '#' then dropIgnored true rest
    else c :: rest

/-- What follows the blanks and comments that may stand at this place. -/
def gap (s : Switches) (cs : List Char) : List Char :=
  if s.blanks then dropIgnored false cs else cs

/-- The first character of a text that is no blank and starts no comment. -/
def firstIn (inComment : Bool) : List Char → Option Char
  | [] => none
  | c :: rest =>
    if isBlank c then firstIn inComment rest
    else if !inComment && c == '#' then firstIn true rest
    else some c

/-- The character that decides what the one before it means. Only the mark of a comment is passed over
here, not what it says. -/
def peek (s : Switches) (cs : List Char) : Option Char :=
  if s.blanks then (firstIn false cs).or cs.head? else cs.head?

/-- The characters with a property at the start of a text, up to a number of them, and what follows them.
What may be ignored after each of them does not count. -/
def span (s : Switches) (p : Char → Bool) : Nat → List Char → List Char × List Char
  | n + 1, c :: rest =>
    if p c then
      let (taken, after) := s.span p n (s.gap rest)
      (c :: taken, after)
    else ([], c :: rest)
  | _, cs => ([], cs)

end Switches
end WebRecipe.Pattern
