import WebRecipe.Pattern.Bracket

/-!
# Reading patterns

The written form of a pattern. Characters stand for themselves, apart from `. ^ $ * + ? ( ) [ {` and
`|`, with which pieces are described and put together, and the backslash of an escape. A group may be
numbered, named or neither, and switches such as `(?i)` hold until the group around them ends.

A pattern must not be nested deeper than `depthLimit`: repetitions, groups, lists of alternatives, of
parts and of items, and brackets each count one.
-/

namespace WebRecipe.Pattern

open WebRecipe.Text
open WebRecipe.Unicode (CodeRange)

/-- How deep a pattern may be nested. -/
def depthLimit : Nat := 250

/-! ### Repetitions -/

/-- Reads the number of a counted repetition. Blanks around it do not count. -/
def readCount (s : Switches) (cs : List Char) : Result (Nat × List Char) :=
  match s.span isDigit cs.length (cs.dropWhile isBlank) with
  | ([], _) => .error .repetitionCount
  | (digits, rest) =>
    match digitsValue? 10 digits with
    | some n => if n < Nat.pow 2 32 then .ok (n, rest.dropWhile isBlank) else .error .repetitionCount
    | none => .error .repetitionCount

/-- Reads the bounds of a counted repetition, after its brace. -/
def readBounds (s : Switches) (cs : List Char) : Result (Nat × Option Nat × List Char) := do
  let (low, rest) ← readCount s (s.gap cs)
  match rest with
  | '\x7d' :: after => return (low, some low, after)
  | ',' :: rest =>
    match s.gap rest with
    | '\x7d' :: after => return (low, none, after)
    | rest =>
      match ← readCount s rest with
      | (high, '\x7d' :: after) =>
        if low ≤ high then return (low, some high, after) else .error .repetitionCount
      | _ => .error .repetitionCount
  | _ => .error .repetitionCount

/-! ### Names and switches of groups -/

/-- A character that the name of a group may start with. -/
def startsGroupName (c : Char) : Bool :=
  c == '_' || Unicode.isAlphabetic c

/-- A character of the name of a group. -/
def inGroupName (c : Char) : Bool :=
  c == '_' || c == '.' || c == '[' || c == ']' || Unicode.isAlphanumeric c

/-- Reads the name of a group, after its angle bracket. No two groups have the same name. -/
def readGroupName (names : List (List Char)) (cs : List Char) : Result (List Char × List Char) :=
  match cs.dropWhile (· != '>') with
  | [] => .error .groupName
  | _ :: after =>
    match cs.takeWhile (· != '>') with
    | [] => .error .groupName
    | c :: more =>
      if startsGroupName c && more.all inGroupName && !names.contains (c :: more) then
        .ok (c :: more, after)
      else .error .groupName

/-- A change of switches that is being read. -/
structure SwitchChange where
  switches : Switches
  seen : List Char := []
  on : Bool := true
  dangling : Bool := false

/-- Reads a change of switches up to the sign that ends it. -/
def readSwitches (k : SwitchChange) : List Char → Result (SwitchChange × List Char)
  | [] => .error .switches
  | c :: rest =>
    if c == ':' || c == ')' then
      if k.dangling then .error .switches else .ok (k, c :: rest)
    else if k.seen.contains c then .error .switches
    else if c == '-' then
      readSwitches { k with seen := c :: k.seen, on := false, dangling := true } rest
    else
      match k.switches.set? k.on c with
      | some s => readSwitches { k with switches := s, seen := c :: k.seen, dangling := false } rest
      | none => .error .switches

/-! ### Groups that are being read -/

/-- A part of a pattern with its depth. Where switches are set there is a part without a pattern. -/
structure Part where
  node : Option Node
  depth : Nat

/-- A pattern with its depth. -/
structure DeepNode where
  node : Node
  depth : Nat

/-- A group that is being read: the alternatives before the current one and the parts of the current
one, the last ones first, and what becomes of the group at its end. -/
structure OpenGroup where
  alternatives : List DeepNode := []
  parts : List Part := []
  index : Option Nat
  outer : Switches

/-- The depth of a list with the greatest depth of its members: a list of several is one deeper. -/
def listDepth (depths : List Nat) : Nat :=
  depths.foldl max 0 + (if depths.length ≤ 1 then 0 else 1)

namespace OpenGroup

/-- The group with a further part. -/
def add (g : OpenGroup) (n : Node) (depth : Nat) : OpenGroup :=
  { g with parts := ⟨some n, depth⟩ :: g.parts }

/-- The current alternative. -/
def alternative (g : OpenGroup) : DeepNode :=
  ⟨.sequence (g.parts.reverse.filterMap (·.node)), listDepth (g.parts.map (·.depth))⟩

/-- What stands in the group. -/
def body (g : OpenGroup) : DeepNode :=
  match g.alternatives with
  | [] => g.alternative
  | before =>
    let all := (g.alternative :: before).reverse
    ⟨.choice (all.map (·.node)), listDepth (all.map (·.depth))⟩

/-- The group at its closing parenthesis. -/
def close (g : OpenGroup) : DeepNode :=
  let ⟨n, depth⟩ := g.body
  match g.index with
  | some i => ⟨.group i n, depth + 1⟩
  | none => ⟨n, depth + 1⟩

end OpenGroup

/-! ### Parts -/

/-- A character by itself. -/
def charNode (s : Switches) (c : Char) : Node :=
  if s.caseless then .set (s.fold [CodeRange.single c]) else .literal [c]

/-- Any character, line breaks apart unless they count as characters. -/
def anyChar (s : Switches) : Result Node :=
  if !s.unicode then .error .notText
  else if s.dotAll then .ok (.set (CodeRange.table "0-10ffff"))
  else if s.carriage then .ok (.set (CodeRange.table "0-9 b-c e-10ffff"))
  else .ok (.set (CodeRange.table "0-9 b-10ffff"))

/-- What an escape stands for. Without `u` a byte that is no character of ASCII is no text. -/
def Escape.node (s : Switches) : Escape → Result Node
  | char c => .ok (charNode s c)
  | byte c => if s.unicode || c.toNat < 0x80 then .ok (charNode s c) else .error .notText
  | place p => .ok (.anchor p)
  | set rs => .ok (.set rs)

/-- The group with its last part repeated. -/
def repeatLast (s : Switches) (g : OpenGroup) (low : Nat) (high : Option Nat) (rest : List Char) :
    Result (OpenGroup × List Char) :=
  match g.parts with
  | ⟨some n, depth⟩ :: before =>
    let (greedy, after) := match rest with
      | '?' :: after => (false, after)
      | _ => (true, rest)
    .ok ({ g with
      parts := ⟨some (n.repeated low high (greedy != s.swapGreed)), depth + 1⟩ :: before }, after)
  | _ => .error .repetitionWithoutOperand

/-- Reads a part of a group, or a repetition of the last one, after its first character. -/
def readPart (s : Switches) (g : OpenGroup) (c : Char) (rest : List Char) :
    Result (OpenGroup × List Char) := do
  match c with
  | '[' =>
    let (k, after) ← readSet s rest
    return (g.add (.set k.ranges) k.depth, after)
  | '*' => repeatLast s g 0 none rest
  | '+' => repeatLast s g 1 none rest
  | '?' => repeatLast s g 0 (some 1) rest
  | '\x7b' =>
    let (low, high, after) ← readBounds s rest
    repeatLast s g low high (s.gap after)
  | '.' => return (g.add (← anyChar s) 0, rest)
  | '^' => return (g.add (.anchor (if s.multiLine then .lineStart s.carriage else .textStart)) 0, rest)
  | '$' => return (g.add (.anchor (if s.multiLine then .lineEnd s.carriage else .textEnd)) 0, rest)
  | '\\' =>
    let (e, after) ← readEscape s rest
    return (g.add (← e.node s) 0, after)
  | _ => return (g.add (charNode s c) 0, rest)

/-! ### Whole patterns -/

/-- The place that reading has come to. -/
structure Reader where
  switches : Switches
  groups : Nat
  names : List (List Char)
  rest : List Char

/-- What an opening parenthesis starts. -/
inductive Opening where
  | switches (r : Reader)
  | group (index : Option Nat) (r : Reader)

/-- The next group with a number, after its name if it has one. -/
def Reader.numbered (r : Reader) (names : List (List Char)) (rest : List Char) : Opening :=
  .group (some (r.groups + 1)) { r with groups := r.groups + 1, names := names, rest := rest }

/-- The signs of conditions on what comes before or after a place, which patterns do not have. -/
def lookAroundSigns : List (List Char) :=
  ["?=".toList, "?!".toList, "?<=".toList, "?<!".toList]

/-- Reads what follows an opening parenthesis. -/
def readOpening (r : Reader) : Result Opening := do
  let cs := r.switches.gap r.rest
  if lookAroundSigns.any (·.isPrefixOf cs) then throw .lookAround
  match cs with
  | '?' :: 'P' :: '<' :: rest | '?' :: '<' :: rest =>
    let (name, after) ← readGroupName r.names rest
    return r.numbered (name :: r.names) after
  | '?' :: rest =>
    let (k, after) ← readSwitches { switches := r.switches } rest
    match after with
    | ':' :: after => return .group none { r with switches := k.switches, rest := after }
    | _ =>
      if k.seen.isEmpty then .error .repetitionWithoutOperand
      else return .switches { r with switches := k.switches, rest := after.drop 1 }
  | _ => return r.numbered r.names cs

/-- Reads the rest of a pattern, where `outer` are the groups around the current one. -/
def readFrom : Nat → Reader → OpenGroup → List OpenGroup → Result DeepNode
  | 0, _, _, _ => .error .groupNotClosed
  | fuel + 1, r, g, outer => do
    match r.switches.gap r.rest with
    | [] =>
      match outer with
      | [] => return g.body
      | _ => .error .groupNotClosed
    | '(' :: rest =>
      match ← readOpening { r with rest := rest } with
      | .switches r' => readFrom fuel r' { g with parts := ⟨none, 0⟩ :: g.parts } outer
      | .group index r' => readFrom fuel r' { index := index, outer := r.switches } (g :: outer)
    | ')' :: rest =>
      match outer with
      | [] => .error .groupNotOpened
      | o :: more =>
        let ⟨n, depth⟩ := g.close
        readFrom fuel { r with switches := g.outer, rest := rest } (o.add n depth) more
    | '|' :: rest =>
      readFrom fuel { r with rest := rest }
        { g with alternatives := g.alternative :: g.alternatives, parts := [] } outer
    | c :: rest =>
      let (g, after) ← readPart r.switches g c rest
      readFrom fuel { r with rest := after } g outer

/-- Reads a whole pattern. -/
def readNode (cs : List Char) : Result Node := do
  let ⟨n, depth⟩ ← readFrom (cs.length + 1) ⟨{}, 0, [], cs⟩ { index := none, outer := {} } []
  if depthLimit < depth then throw .tooDeep
  return n

end WebRecipe.Pattern
