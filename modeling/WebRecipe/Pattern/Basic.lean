import WebRecipe.Unicode.Property

/-!
# Patterns

A pattern describes pieces of text: fixed characters, sets of characters, conditions on the place,
repetitions and alternatives. Alternatives and repetitions have a preference: an earlier alternative,
and more or fewer repetitions, are tried first.

Patterns are put together by `literally`, `set`, `repeated`, `sequence` and `choice`, which give each
pattern in a simple form. Sequences and alternatives nest to the right, and a first part is no sequence
and a first alternative no alternatives; fixed characters next to each other are one piece; alternatives
that each match one character are one set; and parts that all alternatives start with stand before them.
What is repeated no times is left out, with all groups in it.
-/

namespace WebRecipe.Pattern

open WebRecipe.Unicode (CodeRange)

/-! ### Conditions on a place

What a pattern may ask of the place between two characters: that the text or a line starts or ends
there, or that a word does. A character belongs to a word by the rules of the whole character set or by
those of ASCII. -/

/-- A condition on the place between two characters. -/
inductive Place where
  | textStart
  | textEnd
  /-- The start of the text or the place after a line break. -/
  | lineStart (carriage : Bool)
  /-- The end of the text or the place before a line break. -/
  | lineEnd (carriage : Bool)
  | wordBoundary (ascii : Bool)
  | notWordBoundary (ascii : Bool)
  | wordStart (ascii : Bool)
  | wordEnd (ascii : Bool)
  | wordStartHalf (ascii : Bool)
  | wordEndHalf (ascii : Bool)
  deriving Repr, DecidableEq

/-- A letter, a digit or an underscore of ASCII. -/
def isAsciiWord (c : Char) : Bool :=
  c.isAlphanum || c == '_'

/-- Whether there is a character and it belongs to a word. -/
def inWord (ascii : Bool) : Option Char → Bool
  | none => false
  | some c => if ascii then isAsciiWord c else CodeRange.anyContains Unicode.wordRanges c.toNat

/-- Whether a condition holds between two characters; `none` stands for an end of the text. -/
def Place.holds (p : Place) (before after : Option Char) : Bool :=
  match p with
  | textStart => before.isNone
  | textEnd => after.isNone
  | lineStart carriage =>
    before.isNone || before == some '\n' ||
      (carriage && before == some '\r' && after != some '\n')
  | lineEnd carriage =>
    after.isNone || (after == some '\n' && !(carriage && before == some '\r')) ||
      (carriage && after == some '\r')
  | wordBoundary ascii => inWord ascii before != inWord ascii after
  | notWordBoundary ascii => inWord ascii before == inWord ascii after
  | wordStart ascii => !inWord ascii before && inWord ascii after
  | wordEnd ascii => inWord ascii before && !inWord ascii after
  | wordStartHalf ascii => !inWord ascii before
  | wordEndHalf ascii => !inWord ascii after

/-! ### Patterns -/

/-- A pattern. -/
inductive Node where
  | empty
  | literal (text : List Char)
  /-- One character of a set; of the empty set there is none, so that nothing matches. -/
  | oneOf (ranges : List CodeRange)
  | anchor (place : Place)
  | group (index : Nat) (body : Node)
  | times (body : Node) (low : Nat) (high : Option Nat) (greedy : Bool)
  | seq (first rest : Node)
  | either (first rest : Node)
  deriving Repr, DecidableEq

namespace Node

/-! ### Properties -/

/-- Whether only the empty text can match. A set matches no empty text, even if it is empty. -/
def isZeroWidth : Node → Bool
  | empty => true
  | literal text => text.isEmpty
  | oneOf _ => false
  | anchor _ => true
  | group _ body => body.isZeroWidth
  | times body _ _ _ => body.isZeroWidth
  | seq a b => a.isZeroWidth && b.isZeroWidth
  | either a b => a.isZeroWidth && b.isZeroWidth

/-- A number of characters that every match has at least. There is none if some part, as far as the
search for it goes, can match nothing at all. -/
def leastLength? : Node → Option Nat
  | empty => some 0
  | literal text => some text.length
  | oneOf ranges => if ranges.isEmpty then none else some 1
  | anchor _ => some 0
  | group _ body => body.leastLength?
  | times body low _ _ => body.leastLength?.map (low * ·)
  | seq a b => do return (← a.leastLength?) + (← b.leastLength?)
  | either a b => do return min (← a.leastLength?) (← b.leastLength?)

/-- Whether the empty text is not ruled out as a match. -/
def mayBeEmpty (n : Node) : Bool :=
  n.leastLength?.getD 0 == 0

/-- Whether every match starts at a place where a condition holds. -/
def startsWith (p : Place) : Node → Bool
  | empty => false
  | literal _ => false
  | oneOf _ => false
  | anchor q => p = q
  | group _ body => body.startsWith p
  | times body low _ _ => 0 < low && body.startsWith p
  | seq a b => a.startsWith p || (a.isZeroWidth && b.startsWith p)
  | either a b => a.startsWith p && b.startsWith p

/-- Whether every match ends at a place where a condition holds. -/
def endsWith (p : Place) : Node → Bool
  | empty => false
  | literal _ => false
  | oneOf _ => false
  | anchor q => p = q
  | group _ body => body.endsWith p
  | times body low _ _ => 0 < low && body.endsWith p
  | seq a b => b.endsWith p || (b.isZeroWidth && a.endsWith p)
  | either a b => a.endsWith p && b.endsWith p

/-- The greatest number of a group, or zero. -/
def lastGroup : Node → Nat
  | empty => 0
  | literal _ => 0
  | oneOf _ => 0
  | anchor _ => 0
  | group index body => max index body.lastGroup
  | times body _ _ _ => body.lastGroup
  | seq a b => max a.lastGroup b.lastGroup
  | either a b => max a.lastGroup b.lastGroup

/-! ### Characters and sets -/

/-- The characters of a text one after the other. -/
def literally (text : List Char) : Node :=
  if text.isEmpty then empty else literal text

/-- One character of a set. -/
def set (ranges : List CodeRange) : Node :=
  match CodeRange.normalize ranges with
  | [r] => if r.first = r.last then literal [Char.ofNat r.first] else oneOf [r]
  | rs => oneOf rs

/-- The set of a pattern that matches one character. -/
def singles? : Node → Option (List CodeRange)
  | literal [c] => some [CodeRange.single c]
  | oneOf ranges => some ranges
  | _ => none

/-! ### Repetition -/

/-- The same pattern from `low` to `high` times. Of a pattern that matches only the empty text, once is
enough. -/
def repeated (body : Node) (low : Nat) (high : Option Nat) (greedy : Bool) : Node :=
  let (low, high) := if body.isZeroWidth then (min low 1, some (min (high.getD 1) 1)) else (low, high)
  if low = 0 ∧ high = some 0 then empty
  else if low = 1 ∧ high = some 1 then body
  else times body low high greedy

/-! ### Sequences -/

/-- The parts of a sequence. -/
def parts : Node → List Node
  | empty => []
  | seq a b => a :: b.parts
  | n => [n]

/-- The parts with fixed characters next to each other in one piece. -/
def joinLiterals : List Node → List Node
  | [] => []
  | literal s :: rest =>
    match joinLiterals rest with
    | literal t :: more => literal (s ++ t) :: more
    | more => literal s :: more
  | n :: rest => n :: joinLiterals rest

/-- The sequence of some parts. -/
def ofParts : List Node → Node
  | [] => empty
  | [n] => n
  | n :: rest => seq n (ofParts rest)

/-- Patterns one after the other. -/
def sequence (ns : List Node) : Node :=
  ofParts (joinLiterals (ns.flatMap parts))

/-! ### Alternatives -/

/-- The alternatives of a pattern. -/
def choices : Node → List Node
  | either a b => a :: b.choices
  | n => [n]

/-- The pattern with some alternatives. -/
def ofChoices : List Node → Node
  | [] => oneOf []
  | [n] => n
  | n :: rest => either n (ofChoices rest)

/-- The parts that two lists of parts have in common at their start. -/
def commonStart : List Node → List Node → List Node
  | a :: as, b :: bs => if a = b then a :: commonStart as bs else []
  | _, _ => []

/-- Whether a pattern is a sequence of several parts. -/
def isSeq : Node → Bool
  | seq _ _ => true
  | _ => false

/-- The parts that all patterns start with, if each of them is a sequence. -/
def sharedStart (ns : List Node) : List Node :=
  match ns with
  | first :: rest@(_ :: _) =>
    if ns.all isSeq then rest.foldl (fun shared n ↦ commonStart shared n.parts) first.parts else []
  | _ => []

/-- The alternatives as one set if each of them matches one character. -/
def unite (ns : List Node) : Node :=
  match ns.flatMap choices with
  | [n] => n
  | ns =>
    match ns.mapM singles? with
    | some rs => set rs.flatten
    | none => ofChoices ns

/-- One of some patterns, the first ones preferred. -/
def choice (ns : List Node) : Node :=
  let ns := ns.flatMap choices
  match sharedStart ns with
  | [] => unite ns
  | shared => sequence (shared ++ [unite (ns.map fun n ↦ sequence (n.parts.drop shared.length))])

end Node
end WebRecipe.Pattern
