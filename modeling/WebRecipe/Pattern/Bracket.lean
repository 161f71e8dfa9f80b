import WebRecipe.Pattern.Escape

/-!
# Sets in brackets

A set in brackets lists characters, ranges, sets with a name and further sets in brackets. A caret after
the bracket stands for the complement; `&&`, `--` and `~~` join what stands before and after them. Where
case does not count, what is joined and what is complemented is first completed.

With a set its depth is read: how deep brackets, lists of several items and joined sets are nested.
-/

namespace WebRecipe.Pattern

open WebRecipe.Unicode (CodeRange)

/-- How a set is joined to the one before it. -/
inductive SetOp where
  | both
  | firstOnly
  | oneOnly
  deriving Repr, DecidableEq

/-- The sets joined. -/
def SetOp.join : SetOp → List CodeRange → List CodeRange → List CodeRange
  | both => CodeRange.intersection
  | firstOnly => CodeRange.difference
  | oneOnly => CodeRange.symmetricDifference

/-- A set with its depth. -/
structure DeepSet where
  ranges : List CodeRange
  depth : Nat
  deriving Repr

/-- A set in brackets that is being read: the set before the last sign that joins sets, and the items
since, with their number and greatest depth. -/
structure OpenSet where
  negated : Bool
  before : Option (DeepSet × SetOp) := none
  items : List CodeRange := []
  count : Nat := 0
  itemDepth : Nat := 0

namespace OpenSet

/-- The set with a further item. -/
def add (k : OpenSet) (item : DeepSet) : OpenSet :=
  { k with
    items := k.items ++ item.ranges
    count := k.count + 1
    itemDepth := max k.itemDepth item.depth }

/-- The items since the last sign that joins sets. -/
def current (k : OpenSet) : DeepSet :=
  ⟨CodeRange.normalize k.items, if k.count ≤ 1 then k.itemDepth else k.itemDepth + 1⟩

/-- The set that is described so far. -/
def value (s : Switches) (k : OpenSet) : DeepSet :=
  match k.before with
  | some (left, op) =>
    ⟨op.join (s.fold left.ranges) (s.fold k.current.ranges), max left.depth k.current.depth + 1⟩
  | none => k.current

/-- The set that a further one is joined to. -/
def join (s : Switches) (k : OpenSet) (op : SetOp) : OpenSet :=
  { negated := k.negated, before := some (k.value s, op) }

/-- The set at its closing bracket. -/
def close (s : Switches) (k : OpenSet) : Result DeepSet := do
  let v := k.value s
  return ⟨← s.close k.negated v.ranges, v.depth + 1⟩

end OpenSet

/-! ### Reading -/

/-- The hyphens at the start of a set, and what follows them. -/
def leadingHyphens (s : Switches) (k : OpenSet) (cs : List Char) : OpenSet × List Char :=
  let (hyphens, rest) := s.span (· == '-') cs.length cs
  (hyphens.foldl (fun k c ↦ k.add ⟨[CodeRange.single c], 0⟩) k, rest)

/-- Reads the start of a set, after its bracket. A bracket that closes nothing yet stands for itself. -/
def openSet (s : Switches) (cs : List Char) : Result (OpenSet × List Char) :=
  let (k, cs) : OpenSet × List Char := match s.gap cs with
    | '^' :: rest => ({ negated := true }, s.gap rest)
    | rest => ({ negated := false }, rest)
  match leadingHyphens s k cs with
  | (_, []) => .error .classNotClosed
  | (k, ']' :: rest) =>
    if k.count = 0 then
      match s.gap rest with
      | [] => .error .classNotClosed
      | rest => .ok (k.add ⟨[CodeRange.single ']'], 0⟩, rest)
    else .ok (k, ']' :: rest)
  | opened => .ok opened

/-- The sets of ASCII that have a name. -/
def asciiSet? (name : String) : Option (List CodeRange) :=
  match name with
  | "alnum" => some (CodeRange.table "30-39 41-5a 61-7a")
  | "alpha" => some (CodeRange.table "41-5a 61-7a")
  | "ascii" => some (CodeRange.table "0-7f")
  | "blank" => some (CodeRange.table "9 20")
  | "cntrl" => some (CodeRange.table "0-1f 7f")
  | "digit" => some asciiDigits
  | "graph" => some (CodeRange.table "21-7e")
  | "lower" => some (CodeRange.table "61-7a")
  | "print" => some (CodeRange.table "20-7e")
  | "punct" => some (CodeRange.table "21-2f 3a-40 5b-60 7b-7e")
  | "space" => some asciiBlanks
  | "upper" => some (CodeRange.table "41-5a")
  | "word" => some asciiWords
  | "xdigit" => some (CodeRange.table "30-39 41-46 61-66")
  | _ => none

/-- The set with a name between colons, whether it is to be negated, and what follows its bracket. -/
def namedSet? (cs : List Char) : Option ((List CodeRange × Bool) × List Char) :=
  match cs with
  | ':' :: rest =>
    let (negated, rest) := match rest with
      | '^' :: r => (true, r)
      | _ => (false, rest)
    match rest.dropWhile (· != ':') with
    | ':' :: ']' :: after =>
      (asciiSet? (String.ofList (rest.takeWhile (· != ':')))).map fun rs ↦ ((rs, negated), after)
    | _ => none
  | _ => none

/-- Reads a character or an escape in a set. -/
def setItem (s : Switches) : List Char → Result (Escape × List Char)
  | [] => .error .classNotClosed
  | '\\' :: rest => readEscape s rest
  | c :: rest => .ok (.char c, rest)

/-- The set of an escape. -/
def Escape.ranges (s : Switches) : Escape → Result (List CodeRange)
  | char c => s.checked [CodeRange.single c]
  | byte c => s.checked [CodeRange.single c]
  | set rs => .ok rs
  | place _ => .error .escape

/-- The character of an escape, as the end of a range. -/
def Escape.rangeEnd : Escape → Result Char
  | char c => .ok c
  | byte c => .ok c
  | _ => .error .classRange

/-- Reads an item, or two of them with a hyphen between them. -/
def setRange (s : Switches) (cs : List Char) : Result (List CodeRange × List Char) := do
  let (first, rest) ← setItem s cs
  match s.gap rest with
  | [] => .error .classNotClosed
  | '-' :: more =>
    if s.peek more == some ']' || s.peek more == some '-' then
      return (← first.ranges s, '-' :: more)
    else
      let (last, after) ← setItem s (s.gap more)
      let low ← first.rangeEnd
      let high ← last.rangeEnd
      if low ≤ high then return (← s.checked [⟨low.toNat, high.toNat⟩], after)
      else .error .classRange
  | rest => return (← first.ranges s, rest)

/-- Reads what follows the start of a set, where `outer` are the sets around it. -/
def readSetFrom (s : Switches) :
    Nat → OpenSet → List OpenSet → List Char → Result (DeepSet × List Char)
  | 0, _, _, _ => .error .classNotClosed
  | fuel + 1, k, outer, cs =>
    match s.gap cs with
    | [] => .error .classNotClosed
    | '[' :: rest =>
      match namedSet? rest with
      | some ((ranges, negated), after) => do
        readSetFrom s fuel (k.add ⟨← s.close negated ranges, 0⟩) outer after
      | none => do
        let (inner, after) ← openSet s rest
        readSetFrom s fuel inner (k :: outer) after
    | ']' :: rest => do
      let closed ← k.close s
      match outer with
      | [] => return (closed, rest)
      | o :: more => readSetFrom s fuel (o.add closed) more rest
    | '&' :: '&' :: rest => readSetFrom s fuel (k.join s .both) outer rest
    | '-' :: '-' :: rest => readSetFrom s fuel (k.join s .firstOnly) outer rest
    | '~' :: '~' :: rest => readSetFrom s fuel (k.join s .oneOnly) outer rest
    | cs => do
      let (ranges, after) ← setRange s cs
      readSetFrom s fuel (k.add ⟨ranges, 0⟩) outer after

/-- Reads a set, after its bracket. -/
def readSet (s : Switches) (cs : List Char) : Result (DeepSet × List Char) := do
  let (k, rest) ← openSet s cs
  readSetFrom s (cs.length + 1) k [] rest

end WebRecipe.Pattern
