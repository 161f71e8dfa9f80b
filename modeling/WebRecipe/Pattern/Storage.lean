import WebRecipe.Pattern.Basic
import WebRecipe.Unicode.CodeRange

/-!
# The room that a pattern takes

A pattern must not be too large. Its size is that of an automaton that reads the bytes of a text, one
for each direction of reading: a state takes `stateRoom`, each arc of a state that chooses by the next
byte `arcRoom`, and each branch of a state that chooses freely `branchRoom`. A part that is repeated is
stored once for each time.

In a set, characters whose UTF-8 forms have the same last bytes share the states for these. States that
can be shared are looked up in a table with a fixed number of slots, where a later state takes the slot
of an earlier one; so the same set can need different numbers of states at different places.
-/

namespace WebRecipe.Pattern

open WebRecipe.Unicode (CodeRange ByteRange)

/-- The states stored so far and the room that they take. -/
structure Storage where
  states : Nat
  room : Nat
  deriving Repr, DecidableEq

namespace Storage

/-- The room of a state. -/
def stateRoom : Nat := 32

/-- The room of an arc for some bytes. -/
def arcRoom : Nat := 8

/-- The room of a free branch. -/
def branchRoom : Nat := 4

/-- The most room that an automaton may take. -/
def limit : Nat := 10485760

/-- Adds states with further room, if they fit. -/
def add (s : Storage) (states further : Nat) : Option Storage :=
  let room := s.room + states * stateRoom + further
  if room ≤ limit then some ⟨s.states + states, room⟩ else none

end Storage

/-- A direction of reading. -/
inductive Direction where
  | forward
  | backward
  deriving Repr, DecidableEq

/-- A piece of an automaton, by what is stored after it; `none` if it does not fit. -/
structure Piece where
  store : Storage → Option Storage

namespace Piece

instance : Append Piece :=
  ⟨fun p q ↦ ⟨fun s ↦ (p.store s).bind q.store⟩⟩

/-- No state. -/
def nothing : Piece :=
  ⟨some⟩

/-- A number of states with further room. -/
def states (n further : Nat) : Piece :=
  ⟨fun s ↦ s.add n further⟩

/-- A state that goes on in one way. -/
def state : Piece :=
  states 1 0

/-- A state that goes on freely in `n` ways. -/
def branches (n : Nat) : Piece :=
  states 1 (n * Storage.branchRoom)

/-- A state with an arc for each of `n` ranges of bytes. -/
def arcs (n : Nat) : Piece :=
  states 1 (n * Storage.arcRoom)

/-- What is stored after `n` copies of a piece. -/
def storeCopies (p : Piece) : Nat → Storage → Option Storage
  | 0, s => some s
  | n + 1, s =>
    match p.store s with
    | some s' => storeCopies p n s'
    | none => none

/-- A piece `n` times. -/
def copies (p : Piece) (n : Nat) : Piece :=
  ⟨storeCopies p n⟩

end Piece

/-! ### Slots -/

/-- The slot, among `size` ones, of a state that is described by some numbers. -/
def slotOf (size : Nat) (numbers : List Nat) : Nat :=
  (numbers.foldl (fun h n ↦ (h ^^^ n.toUInt64) * 1099511628211) (14695981039346656037 : UInt64)).toNat % size

/-- States that can be shared, by their slots: what describes a state, and its number. -/
abbrev Slots := Array (Option (List Nat × Nat))

/-- Slots without states. -/
def emptySlots (size : Nat) : Slots :=
  Array.replicate size none

/-- What is stored, and the states among it that can be shared. -/
structure Sharing where
  slots : Slots
  storage : Storage

namespace Sharing

/-- The state with a description: the one that can be shared, or else a new one with further room. -/
def state (k : Sharing) (description : List Nat) (further : Nat) : Option (Nat × Sharing) :=
  let slot := slotOf k.slots.size description
  let new : Option (Nat × Sharing) := do
    let storage ← k.storage.add 1 further
    return (k.storage.states, ⟨k.slots.setIfInBounds slot (some (description, k.storage.states)), storage⟩)
  match k.slots.getD slot none with
  | some (known, number) => if known = description then some (number, k) else new
  | none => new

/-! ### Sets read forwards -/

/-- The sequences with the same first byte range as the one before, together: that range and what
follows it. -/
def groupByFirst : List (List ByteRange) → List (ByteRange × List (List ByteRange))
  | [] => []
  | [] :: rest => groupByFirst rest
  | (b :: bs) :: rest =>
    match groupByFirst rest with
    | (c, tails) :: more => if b = c then (c, bs :: tails) :: more else (b, [bs]) :: (c, tails) :: more
    | [] => [(b, [bs])]

/-- The state that reads one of some sequences of at most `n` byte ranges and goes on with `target`. -/
def prefixTree (target : Nat) : Nat → List (List ByteRange) → Sharing → Option (Nat × Sharing)
  | 0, _, k => some (target, k)
  | n + 1, seqs, k =>
    if seqs.all (·.isEmpty) then some (target, k)
    else do
      let (arcs, k) ← (groupByFirst seqs).foldlM
        (fun (arcs, k) (b, tails) ↦ do
          let (next, k) ← prefixTree target n tails k
          return (arcs ++ [b.first, b.last, next], k))
        ([], k)
      k.state arcs (arcs.length / 3 * Storage.arcRoom)

/-- The longest UTF-8 form. -/
def longestForm : Nat := 4

/-- The number of slots for states that read forwards. -/
def forwardSlots : Nat := 10000

/-- What is stored after a set that is read forwards. -/
def storeForward (seqs : List (List ByteRange)) (s : Storage) : Option Storage := do
  let started ← s.add 1 0
  let (_, k) ← prefixTree s.states longestForm seqs ⟨emptySlots forwardSlots, started⟩
  return k.storage

/-! ### Sets read backwards -/

/-- The state that reads a sequence of byte ranges backwards and goes on with `target`. -/
def suffixChain : Nat → List ByteRange → Sharing → Option Sharing
  | _, [], k => some k
  | target, b :: bs, k => do
    let (next, k) ← k.state [target, b.first, b.last] 0
    suffixChain next bs k

/-- The number of slots for states that read backwards. -/
def backwardSlots : Nat := 1000

/-- What is stored after a set that is read backwards. -/
def storeBackward (seqs : List (List ByteRange)) (s : Storage) : Option Storage := do
  let started ← s.add 2 (seqs.length * Storage.branchRoom)
  let k ← seqs.foldlM (fun k seq ↦ suffixChain (s.states + 1) seq k) ⟨emptySlots backwardSlots, started⟩
  return k.storage

end Sharing

/-- A set of characters. -/
def Piece.set (d : Direction) (ranges : List CodeRange) : Piece :=
  if ranges.all (·.last < 0x80) then state ++ arcs ranges.length
  else
    let seqs := ranges.flatMap CodeRange.byteSequences
    match d with
    | .forward => ⟨Sharing.storeForward seqs⟩
    | .backward => ⟨Sharing.storeBackward seqs⟩

/-! ### Alternatives that are fixed texts -/

/-- The words between empty ones. -/
def segments : List (List Nat) → List (List (List Nat))
  | [] => [[]]
  | [] :: rest => [] :: segments rest
  | w :: rest =>
    match segments rest with
    | s :: more => (w :: s) :: more
    | [] => [[w]]

/-- Empty words at the start count once. -/
def mergeEmpty : List (List Nat) → List (List Nat)
  | [] :: [] :: rest => mergeEmpty ([] :: rest)
  | ws => ws

/-- The first bytes of some words. -/
def firstBytes (ws : List (List Nat)) : List Nat :=
  (ws.filterMap List.head?).eraseDups

/-- The words that start with a byte, without it. -/
def tailsAfter (b : Nat) (ws : List (List Nat)) : List (List Nat) :=
  ws.filterMap fun w ↦ if w.head? = some b then w.tail? else none

/-- The states, and their further room, of a tree that reads one of some words of at most `n` bytes. Words
before an empty word are preferred to it and form a state of their own. -/
def wordTree : Nat → List (List Nat) → Nat × Nat
  | 0, _ => (0, 0)
  | n + 1, ws =>
    if ws.all (·.isEmpty) then (0, 0)
    else
      let parts := segments (mergeEmpty ws)
      let full := parts.filter (!·.isEmpty)
      let below := full.flatMap fun part ↦ (firstBytes part).map fun b ↦ wordTree n (tailsAfter b part)
      let arcs := full.map fun part ↦
        if (firstBytes part).length = 1 then 0 else (firstBytes part).length * Storage.arcRoom
      (1 + full.length + (below.map (·.1)).sum,
        (full.length + (parts.length - 1)) * Storage.branchRoom + arcs.sum + (below.map (·.2)).sum)

/-- The bytes of a text in the order in which they are read. -/
def bytesOf (d : Direction) (text : List Char) : List Nat :=
  let bytes := text.flatMap fun c ↦ Unicode.utf8Bytes c.toNat
  match d with
  | .forward => bytes
  | .backward => bytes.reverse

/-- One of some texts. -/
def Piece.words (d : Direction) (texts : List (List Char)) : Piece :=
  let words := texts.map (bytesOf d)
  let (n, further) := wordTree ((words.map List.length).foldl max 0) words
  state ++ states n further

/-! ### Patterns -/

namespace Node

/-- The texts of alternatives that are all fixed texts. -/
def texts? : Node → Option (List (List Char))
  | literal s => some [s]
  | either (literal s) rest => rest.texts?.map (s :: ·)
  | _ => none

/-- The place of alternatives among those that belong together. -/
inductive Turn where
  | first
  | second
  | later
  deriving Repr, DecidableEq

/-- A repeated piece. -/
def repeatedPiece (body : Piece) (mayBeEmpty : Bool) (low : Nat) : Option Nat → Piece
  | none =>
    match low with
    | 0 =>
      if mayBeEmpty then body ++ .branches 2 ++ .branches 2 ++ .state else .branches 2 ++ body
    | _ => body.copies low ++ .branches 2
  | some high =>
    if low = 0 ∧ high = 1 then .branches 2 ++ body ++ .state
    else if low = high then body.copies low
    else
      (if low = 0 then .state else body.copies low) ++ .state ++
        (.branches 2 ++ body : Piece).copies (high - low)

/-- What follows alternatives by their place: the state that branches and the one where they meet again are
stored after the second one. -/
def meeting : Turn → Piece
  | .first => .nothing
  | .second => .branches 2 ++ .state
  | .later => .states 0 Storage.branchRoom

/-- The piece of a pattern that stands among alternatives. -/
def pieceAt (d : Direction) : Turn → Node → Piece
  | turn, empty => .state ++ meeting turn
  | turn, literal text => Piece.state.copies (bytesOf d text).length ++ meeting turn
  | turn, oneOf ranges => .set d ranges ++ meeting turn
  | turn, anchor _ => .state ++ meeting turn
  | turn, group _ body =>
    (match d with
    | .forward => .state ++ pieceAt d .first body ++ .state
    | .backward => pieceAt d .first body) ++ meeting turn
  | turn, times body low high _ =>
    repeatedPiece (pieceAt d .first body) body.mayBeEmpty low high ++ meeting turn
  | turn, seq a b =>
    (match d with
    | .forward => pieceAt d .first a ++ pieceAt d .first b
    | .backward => pieceAt d .first b ++ pieceAt d .first a) ++ meeting turn
  | .first, either a b =>
    match (either a b).texts? with
    | some texts => .words d texts
    | none => pieceAt d .first a ++ pieceAt d .second b
  | .second, either a b => pieceAt d .first a ++ meeting .second ++ pieceAt d .later b
  | .later, either a b => pieceAt d .first a ++ meeting .later ++ pieceAt d .later b

/-- The piece of a pattern. -/
def piece (d : Direction) (n : Node) : Piece :=
  n.pieceAt d .first

/-- The piece that passes over the bytes before a match, unless a match stands at the end of the text. -/
def lead (atEnd : Bool) : Piece :=
  if atEnd then .state else .branches 2 ++ .state ++ .arcs 1

/-- The automaton of a pattern. Reading forwards it remembers where groups start and end. -/
def automaton (n : Node) : Direction → Piece
  | .forward => lead (n.startsWith .textStart) ++ .state ++ n.piece .forward ++ .state ++ .state
  | .backward => lead (n.endsWith .textEnd) ++ n.piece .backward ++ .state

/-- Whether the automata of a pattern fit. -/
def fits (n : Node) : Bool :=
  ((n.automaton .forward).store ⟨0, 0⟩).isSome && ((n.automaton .backward).store ⟨0, 0⟩).isSome

end Node
end WebRecipe.Pattern
