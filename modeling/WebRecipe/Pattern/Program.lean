import WebRecipe.Pattern.Basic

/-!
# Searching for a pattern

A pattern is turned into a program whose steps read one character, check the place, remember a place
or branch. The program runs on all its branches at once, one character after another, the branches
ordered by preference; a branch that reaches a step already reached at the same place by a preferred
branch is dropped. So a search takes time proportional to the text and finds the leftmost match, and
of the matches there the preferred one.
-/

namespace WebRecipe.Pattern

open WebRecipe.Unicode (CodeRange)

/-- A step of a program, with the numbers of the steps that follow. -/
inductive Instr where
  | read (ranges : List CodeRange) (next : Nat)
  | check (place : Place) (next : Nat)
  /-- Remembers the place in a slot. -/
  | save (slot next : Nat)
  /-- Goes on in two ways, the first one preferred. -/
  | split (first second : Nat)
  | accept
  deriving Repr, Inhabited

/-- A program and the step it starts with. -/
structure Program where
  steps : Array Instr
  start : Nat

namespace Program

/-! ### Compilation -/

private abbrev Builder := StateM (Array Instr)

private def emit (i : Instr) : Builder Nat :=
  modifyGet fun code ↦ (code.size, code.push i)

private def place (label : Nat) (i : Instr) : Builder Unit :=
  modify (fun code ↦ code.setIfInBounds label i)

private def branch (greedy : Bool) (body next : Nat) : Instr :=
  if greedy then .split body next else .split next body

/-- `body` at least once, then as often as it matches, then `next`. -/
private def loopOnce (body : Nat → Builder Nat) (greedy : Bool) (next : Nat) : Builder Nat := do
  let label ← emit .accept
  let start ← body label
  place label (branch greedy start next)
  return start

/-- `body` as often as it matches, then `next`. A body that may match nothing is entered once before
it is decided whether to go on, which keeps the preference of the branches. -/
private def loop (body : Nat → Builder Nat) (nullable greedy : Bool) (next : Nat) : Builder Nat := do
  if nullable then
    let start ← loopOnce body greedy next
    emit (branch greedy start next)
  else
    let label ← emit .accept
    let start ← body label
    place label (branch greedy start next)
    return label

/-- `body` up to `n` times, nested so that giving up once gives up the rest, then what starts at
`rest`. -/
private def upTo (body : Nat → Builder Nat) (greedy : Bool) (next : Nat) : Nat → Nat → Builder Nat
  | 0, rest => return rest
  | n + 1, rest => do
    let start ← body rest
    upTo body greedy next n (← emit (branch greedy start next))

/-- `body` a number of times, then `next`. -/
private def exactly (body : Nat → Builder Nat) : Nat → Nat → Builder Nat
  | 0, next => return next
  | n + 1, next => do exactly body n (← body next)

/-- The characters of a text, the last one first, before `next`. -/
private def spell : List Char → Nat → Builder Nat
  | [], next => return next
  | c :: before, next => do spell before (← emit (.read [CodeRange.single c] next))

private def compile : Node → Nat → Builder Nat
  | .empty, next => return next
  | .literal text, next => spell text.reverse next
  | .oneOf ranges, next => emit (.read ranges next)
  | .anchor p, next => emit (.check p next)
  | .group index body, next => do
    let close ← emit (.save (2 * index + 1) next)
    let start ← compile body close
    emit (.save (2 * index) start)
  | .seq a b, next => do
    let rest ← compile b next
    compile a rest
  | .either a b, next => do
    let first ← compile a next
    let second ← compile b next
    emit (.split first second)
  | .times body low high greedy, next => do
    match high with
    | some h => exactly (compile body) low (← upTo (compile body) greedy next (h - low) next)
    | none =>
      match low with
      | 0 => loop (compile body) body.mayBeEmpty greedy next
      | n + 1 => exactly (compile body) n (← loopOnce (compile body) greedy next)

/-- The program of a pattern; the whole match is kept in the slots `0` and `1`. -/
def ofNode (n : Node) : Program :=
  let (start, code) := (do
    let done ← emit .accept
    compile (.group 0 n) done : Builder Nat).run #[]
  ⟨code, start⟩

/-! ### Running -/

/-- The remembered places, the latest first. -/
abbrev Slots := List (Nat × Nat)

/-- A branch of a run: the step it is at and the places it remembers. -/
structure Branch where
  step : Nat
  slots : Slots

/-- What the branches at one place come to: those that want a character, in order of preference, and
the match that a branch less preferred than all of them reached. -/
private structure Front where
  waiting : List (List CodeRange × Branch)
  found : Option Slots

private def expand (p : Program) (position : Nat) (before after : Option Char) :
    Nat → List Branch → Array Bool → List (List CodeRange × Branch) → Front
  | 0, _, _, waiting => ⟨waiting.reverse, none⟩
  | _ + 1, [], _, waiting => ⟨waiting.reverse, none⟩
  | fuel + 1, b :: stack, seen, waiting =>
    if seen.getD b.step true then expand p position before after fuel stack seen waiting
    else
      let seen := seen.setIfInBounds b.step true
      match p.steps.getD b.step .accept with
      | .read ranges next =>
        expand p position before after fuel stack seen ((ranges, ⟨next, b.slots⟩) :: waiting)
      | .check c next =>
        if c.holds before after then
          expand p position before after fuel (⟨next, b.slots⟩ :: stack) seen waiting
        else expand p position before after fuel stack seen waiting
      | .save slot next =>
        expand p position before after fuel (⟨next, (slot, position) :: b.slots⟩ :: stack) seen waiting
      | .split first second =>
        expand p position before after fuel (⟨first, b.slots⟩ :: ⟨second, b.slots⟩ :: stack) seen
          waiting
      | .accept => ⟨waiting.reverse, some b.slots⟩

private def frontAt (p : Program) (position : Nat) (before after : Option Char)
    (branches : List Branch) : Front :=
  expand p position before after (branches.length + 2 * p.steps.size + 1) branches
    (Array.replicate p.steps.size false) []

private def moved (c : Char) (waiting : List (List CodeRange × Branch)) : List Branch :=
  waiting.filterMap (fun w ↦ if CodeRange.anyContains w.1 c.toNat then some w.2 else none)

private def run (p : Program) (position : Nat) (before : Option Char) (branches : List Branch)
    (best : Option Slots) : List Char → Option Slots
  | [] =>
    let started := if best.isNone then branches ++ [⟨p.start, []⟩] else branches
    (p.frontAt position before none started).found.or best
  | c :: rest =>
    let started := if best.isNone then branches ++ [⟨p.start, []⟩] else branches
    let front := p.frontAt position before (some c) started
    let best := front.found.or best
    let next := moved c front.waiting
    if next.isEmpty && best.isSome then best
    else run p (position + 1) (some c) next best rest

/-- The first match that starts at a position or later, as the places in its slots. -/
def search (p : Program) (text : List Char) (start : Nat) : Option Slots :=
  run p start ((text.take start).getLast?) [] none (text.drop start)

end Program
end WebRecipe.Pattern
