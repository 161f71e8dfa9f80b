import WebRecipe.Condition.Expr
import WebRecipe.Condition.Scanner
import WebRecipe.Number.Reading
import WebRecipe.Number.Text

/-!
# Words, numbers and strings of the condition language

The smallest parts of a condition. A word is a letter, `_` or `$` followed by letters, digits, `_` and
`$` of ASCII; the fourteen keywords are not identifiers but may name members. A number is decimal, or
hexadecimal below `2 ^ 64`. In a string a backslash introduces an escape; a backslash before a line
break joins the lines, and an escape by code point that names no character stands for its digits.
-/

namespace WebRecipe.Condition

/-- The characters a word starts with. -/
def isWordStart (c : Char) : Bool :=
  c.isAlpha || c == '_' || c == '$'

/-- The characters a word goes on with. -/
def isWordChar (c : Char) : Bool :=
  c.isAlphanum || c == '_' || c == '$'

/-- The words that are not identifiers. -/
def keywords : List String :=
  ["true", "false", "null", "undefined", "this", "new", "function", "class", "typeof", "void",
    "delete", "instanceof", "in", "await"]

namespace Scanner

/-- A word: the longest run of word characters, if it starts one. -/
def word : Scanner String := do
  match (← rest).head? with
  | some c => if isWordStart c then return String.ofList (← takeWhile isWordChar) else failure
  | none => failure

/-- One of the words of a list. -/
def wordOf (ws : List String) : Scanner String := do
  let w ← word
  if ws.contains w then return w else failure

/-- An identifier: a word that is not a keyword. -/
def identifier : Scanner String :=
  named do
    let w ← word
    if keywords.contains w then failure else return w

/-- The name of a member: any word. -/
def propertyName : Scanner String :=
  named word

/-! ### Numbers -/

/-- Whether a character is a hexadecimal digit. -/
def isHexDigit (c : Char) : Bool :=
  (digitValue? c).isSome

/-- The length of the hexadecimal number that a text begins with. -/
def hexLength : List Char → Nat
  | '0' :: x :: rest =>
    if x == 'x' || x == 'X' then
      let n := (rest.takeWhile isHexDigit).length
      if n = 0 then 0 else n + 2
    else 0
  | _ => 0

/-- The length of the exponent that a text begins with. -/
def exponentLength : List Char → Nat
  | e :: rest =>
    if e == 'e' || e == 'E' then
      match rest with
      | s :: ds =>
        if s == '+' || s == '-' then
          let n := (ds.takeWhile isDigit).length
          if n = 0 then 0 else n + 2
        else
          let n := (rest.takeWhile isDigit).length
          if n = 0 then 0 else n + 1
      | [] => 0
    else 0
  | [] => 0

/-- The length of the decimal number that a text begins with. -/
def decimalLength (cs : List Char) : Nat :=
  let whole := (cs.takeWhile isDigit).length
  let mantissa :=
    match cs.drop whole with
    | '.' :: rest =>
      let fraction := (rest.takeWhile isDigit).length
      if whole = 0 ∧ fraction = 0 then 0 else whole + 1 + fraction
    | _ => whole
  if mantissa = 0 then 0 else mantissa + exponentLength (cs.drop mantissa)

/-- How many characters of a text make up a number. -/
def numberLength (cs : List Char) : Nat :=
  let n := hexLength cs
  if n = 0 then decimalLength cs else n

/-- The value of a number literal; `none` for a hexadecimal one of `2 ^ 64` or more. -/
def numberValue? (cs : List Char) : Option Float :=
  if hexLength cs = 0 then readDecimal? cs
  else
    match digitsValue? 16 (cs.drop 2) with
    | some n => if n < Nat.pow 2 64 then some (Float.ofNat n) else none
    | none => none

/-- A number literal. -/
def number : Scanner Float :=
  named do
    let cs ← rest
    let n := numberLength cs
    if n = 0 then failure
    skip n
    match numberValue? (cs.take n) with
    | some x => return x
    | none =>
      noteOversized (String.ofList (cs.take n))
      return 0

/-! ### Strings -/

/-- The character of a code point; `none` for a surrogate or a number that is no code point. -/
def charOfCode? (n : Nat) : Option Char :=
  if h : n.isValidChar then some (Char.ofNatAux n h) else none

/-- What a code written in hexadecimal stands for: its character, or else its digits. -/
def codeText (digits : List Char) : List Char :=
  match (readNatural? 16 (Nat.pow 2 32) digits).bind charOfCode? with
  | some c => [c]
  | none => digits

/-- Whether a character is not a closing brace. -/
def isNotBrace (c : Char) : Bool :=
  c != '\x7d'

/-- The text between quotes with its escapes resolved. -/
def unescape : List Char → List Char
  | [] => []
  | '\\' :: rest =>
    match rest with
    | [] => []
    | 'n' :: r => '\n' :: unescape r
    | 't' :: r => '\t' :: unescape r
    | 'r' :: r => '\r' :: unescape r
    | 'b' :: r => '\x08' :: unescape r
    | 'f' :: r => '\x0c' :: unescape r
    | 'v' :: r => '\x0b' :: unescape r
    | '0' :: r => '\x00' :: unescape r
    | '\n' :: r => unescape r
    | 'x' :: r => codeText (r.take 2) ++ unescape (r.drop 2)
    | 'u' :: '\x7b' :: r =>
      codeText (r.takeWhile isNotBrace) ++ unescape ((r.dropWhile isNotBrace).drop 1)
    | 'u' :: r => codeText (r.take 4) ++ unescape (r.drop 4)
    | c :: r => c :: unescape r
  | c :: rest => c :: unescape rest
termination_by cs => cs.length
decreasing_by
  all_goals simp only [List.length_cons, List.length_drop]
  all_goals first
    | omega
    | (have shorter := (List.dropWhile_sublist isNotBrace (l := r)).length_le; omega)

/-- How many characters come before the closing quote; an escaped character never closes. -/
def quotedLength (quote : Char) : List Char → Nat
  | [] => 0
  | '\\' :: [] => 0
  | '\\' :: _ :: rest => quotedLength quote rest + 2
  | c :: rest => if c = quote then 0 else quotedLength quote rest + 1

/-- A text between two quotes of one kind. -/
def quotedBy (quote : Char) : Scanner String := do
  literal [quote]
  let cs ← rest
  let n := quotedLength quote cs
  skip n
  literal [quote]
  return String.ofList (unescape (cs.take n))

/-- A string between double or single quotes. -/
def string : Scanner String :=
  named (orElse (quotedBy '"') (quotedBy '\''))

/-- How many characters of a template come before a substitution or the closing backtick. -/
def templateLength : List Char → Nat
  | [] => 0
  | '\\' :: [] => 0
  | '\\' :: _ :: rest => templateLength rest + 2
  | '$' :: '\x7b' :: _ => 0
  | c :: rest => if c = '`' then 0 else templateLength rest + 1

/-- A piece of text in a template, not empty. -/
def templateText : Scanner String :=
  named do
    let cs ← rest
    let n := templateLength cs
    if n = 0 then failure
    skip n
    return String.ofList (unescape (cs.take n))

/-! ### Braces -/

/-- How many characters there are up to the brace that closes the `depth` open ones, included. -/
def blockLength : Nat → List Char → Option Nat
  | _, [] => none
  | depth, c :: rest =>
    if c = '\x7b' then (blockLength (depth + 1) rest).map (· + 1)
    else if c = '\x7d' then
      if depth ≤ 1 then some 1 else (blockLength (depth - 1) rest).map (· + 1)
    else (blockLength depth rest).map (· + 1)

/-- A block between braces. Every position inside it is one at which a nested block was tried. -/
def braceBlock : Scanner Unit := fun c ↦
  match c.rest with
  | '\x7b' :: _ =>
    match blockLength 0 c.rest with
    | some n =>
      .ok () { c with rest := c.rest.drop n, position := c.position + n } (c.position + n - 1)
    | none => .fail (c.position + c.rest.length)
  | _ => .fail c.position

end Scanner
end WebRecipe.Condition
