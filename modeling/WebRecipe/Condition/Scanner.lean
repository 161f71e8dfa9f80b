/-!
# Scanners

A scanner reads part of a text: it moves a cursor over a list of characters or fails. Choices are
ordered and a repetition takes as much as it can; nothing that was chosen is taken back. Every
outcome also says how far reading got: `reached` is the greatest position at which a named
construct (`Scanner.named`) was tried and failed. A syntax error is reported there.
-/

namespace WebRecipe.Condition

/-- What is left to read, how many characters were read, and the first number literal on the way
here that is too large to be a number. -/
structure Cursor where
  rest : List Char
  position : Nat
  oversized : Option String := none

/-- The result of a scanner. -/
inductive Outcome (α : Type) where
  | ok (value : α) (next : Cursor) (reached : Nat)
  | fail (reached : Nat)

/-- A scanner moves a cursor or fails. -/
def Scanner (α : Type) : Type :=
  Cursor → Outcome α

namespace Outcome

variable {α β : Type}

/-- The outcome after having reached a position before. -/
def reaching (r : Nat) : Outcome α → Outcome α
  | ok a c r' => ok a c (max r r')
  | fail r' => fail (max r r')

end Outcome

namespace Scanner

variable {α β : Type}

/-- Succeeds without reading. -/
protected def pure (a : α) : Scanner α := fun c ↦ .ok a c 0

/-- One scanner after another. -/
protected def bind (p : Scanner α) (f : α → Scanner β) : Scanner β := fun c ↦
  match p c with
  | .ok a c' r => (f a c').reaching r
  | .fail r => .fail r

instance : Monad Scanner where
  pure := Scanner.pure
  bind := Scanner.bind

/-- Fails without marking a position. -/
def failure : Scanner α := fun _ ↦ .fail 0

/-- The second scanner where the first one fails. -/
def orElse (p q : Scanner α) : Scanner α := fun c ↦
  match p c with
  | .ok a c' r => .ok a c' r
  | .fail r => (q c).reaching r

/-- The first scanner of a list that succeeds. -/
def choice : List (Scanner α) → Scanner α
  | [] => failure
  | p :: ps => orElse p (choice ps)

/-- Marks the position where a named construct was tried when it fails. -/
def named (p : Scanner α) : Scanner α := fun c ↦
  match p c with
  | .ok a c' r => .ok a c' r
  | .fail r => .fail (max r c.position)

/-- The scanner, or nothing where it fails. -/
def optional (p : Scanner α) : Scanner (Option α) :=
  orElse (do return some (← p)) (Scanner.pure none)

/-- As many occurrences as there are, up to a bound. -/
def manyGo (p : Scanner α) : Nat → Scanner (List α)
  | 0 => Scanner.pure []
  | n + 1 =>
    orElse (do
      let a ← p
      let rest ← manyGo p n
      return a :: rest) (Scanner.pure [])

/-- The scanner as often as it succeeds, for scanners that read something. -/
def many (p : Scanner α) : Scanner (List α) := fun c ↦
  manyGo p (c.rest.length + 1) c

/-- What is left to read. -/
def rest : Scanner (List Char) := fun c ↦ .ok c.rest c 0

/-- Moves past a number of characters. -/
def skip (n : Nat) : Scanner Unit := fun c ↦
  .ok () { c with rest := c.rest.drop n, position := c.position + min n c.rest.length } 0

/-- Reads a fixed piece of text. -/
def literal (s : List Char) : Scanner Unit := do
  if s.isPrefixOf (← rest) then skip s.length else failure

/-- Reads the longest run of characters of a class. -/
def takeWhile (f : Char → Bool) : Scanner (List Char) := do
  let run := (← rest).takeWhile f
  skip run.length
  return run

/-- Notes a number literal that is too large; the first one on the way counts. -/
def noteOversized (text : String) : Scanner Unit := fun c ↦
  .ok () { c with oversized := c.oversized.or (some text) } 0

/-- The scanner without what it noted about number literals. -/
def forgetting (p : Scanner α) : Scanner α := fun c ↦
  match p c with
  | .ok a c' r => .ok a { c' with oversized := c.oversized } r
  | .fail r => .fail r

/-- Whether a character is a blank between tokens. -/
def isSpace (c : Char) : Bool :=
  c == ' ' || c == '\t' || c == '\r' || c == '\n'

/-- Moves past spaces, tabs and line breaks. -/
def spaces : Scanner Unit := do
  let _ ← takeWhile isSpace

end Scanner
end WebRecipe.Condition
