import WebRecipe.Pattern.Program
import WebRecipe.Pattern.Reading
import WebRecipe.Pattern.Storage

/-!
# Matches of patterns

`Pattern.read` gives a pattern ready for searching, or the reason why a text is none; the matches are
found from left to right.
-/

namespace WebRecipe

/-- A pattern ready for searching, with the number of its groups. -/
structure Pattern where
  program : Pattern.Program
  groups : Nat

namespace Pattern

/-- A match: the places where it and its groups start and end. -/
structure Match where
  start : Nat
  stop : Nat
  groups : List (Option (Nat × Nat))
  deriving Repr

/-- Reads a pattern. -/
def read (source : String) : Except ReadError Pattern := do
  let n ← readNode source.toList
  if !n.fits then throw .tooLarge
  return ⟨Program.ofNode n, n.lastGroup⟩

/-- The places where a group starts and ends, if it took part in the match. -/
def bounds? (slots : Program.Slots) (group : Nat) : Option (Nat × Nat) := do
  return (← slots.lookup (2 * group), ← slots.lookup (2 * group + 1))

/-- The first match in a text that starts at a position or later. -/
def matchFrom? (p : Pattern) (text : List Char) (start : Nat) : Option Match := do
  let slots ← p.program.search text start
  let (a, b) ← bounds? slots 0
  return ⟨a, b, (List.range p.groups).map fun i ↦ bounds? slots (i + 1)⟩

/-- The first match in a text. -/
def match? (p : Pattern) (text : List Char) : Option Match :=
  p.matchFrom? text 0

/-- The text between two positions. -/
def slice (text : List Char) (start stop : Nat) : String :=
  String.ofList ((text.take stop).drop start)

/-- The matches that start at a position or later, where `lastStop` is the end of the match before. -/
def matchesFrom (p : Pattern) (text : List Char) : Nat → Nat → Option Nat → List Match
  | 0, _, _ => []
  | fuel + 1, start, lastStop =>
    match p.matchFrom? text start with
    | none => []
    | some m =>
      if m.start = m.stop ∧ lastStop = some m.stop then
        if start < text.length then
          match p.matchFrom? text (start + 1) with
          | none => []
          | some m => m :: matchesFrom p text fuel m.stop (some m.stop)
        else []
      else m :: matchesFrom p text fuel m.stop (some m.stop)

/-- The matches in a text from left to right. A match of nothing does not directly follow another
match. -/
def allMatches (p : Pattern) (text : List Char) : List Match :=
  matchesFrom p text (2 * text.length + 2) 0 none

end Pattern
end WebRecipe
