import WebRecipe.Yaml.Layout

/-!
# Nodes of a YAML document

The tree that the tokens of a text describe. A node may carry an anchor, which has a number: how many
other names had anchors when it was given. An alias has the number that its name has where it stands.

Where a node may be left out, an empty plain scalar stands for it.
-/

namespace WebRecipe.Yaml

/-- What is said of a node apart from its content. -/
structure Properties where
  anchor : Option Nat := none
  tag : Option String := none
  deriving Repr, DecidableEq

/-- A node of a document. -/
inductive Node where
  | alias (anchor : Nat)
  | scalar (properties : Properties) (text : String) (isPlain : Bool)
  | sequence (properties : Properties) (items : List Node)
  | mapping (properties : Properties) (members : List (Node × Node))
  deriving Repr

/-- The node that stands where nothing is written. -/
def Node.empty : Node :=
  .scalar {} "" true

/-- What a reader of nodes goes through. -/
structure TokenStream where
  tokens : List Token
  /-- The handles that tags may begin with, and what they stand for. -/
  handles : List (String × String)
  /-- The names of anchors with their numbers, each name once. -/
  anchors : List (String × Nat) := []

/-- A reader of nodes. -/
abbrev NodeReader := StateT TokenStream (Except Fault)

namespace NodeReader

/-- The next token, which stays. -/
def peek : NodeReader (Option Token) := do
  return (← get).tokens.head?

/-- Passes the next token. -/
def skip : NodeReader Unit :=
  modify fun s ↦ { s with tokens := s.tokens.tail }

/-- Passes a token that must come next. -/
def expect (t : Token) : NodeReader Unit := do
  if (← peek) == some t then skip else throw .unexpectedToken

/-- Passes a token if it comes next, and tells whether it did. -/
def accept (t : Token) : NodeReader Bool := do
  if (← peek) == some t then
    skip
    return true
  else return false

/-- Whether one of some tokens comes next. -/
def isNext (ts : List Token) : NodeReader Bool := do
  return (← peek).any ts.contains

/-! ### Properties -/

/-- Gives a name to an anchor. -/
def giveAnchor (name : String) : NodeReader Nat := do
  let s ← get
  let number := s.anchors.length
  set { s with anchors := (name, number) :: s.anchors.filter (fun a ↦ a.1 != name) }
  return number

/-- The anchor that a name has now. -/
def findAnchor (name : String) : NodeReader Nat := do
  match (← get).anchors.lookup name with
  | some number => return number
  | none => throw .unknownAnchor

/-- The whole of a tag. -/
def wholeTag (tag : TagText) : NodeReader String := do
  match tag.handle with
  | none => return tag.rest
  | some handle =>
    match (← get).handles.lookup handle with
    | some beginning => return beginning ++ tag.rest
    | none => throw .undefinedHandle

/-- The anchor and the tag before a node, in any order, each at most once; the anchor is not yet
given. -/
def properties : NodeReader (Option String × Option TagText) := do
  match ← peek with
  | some (.anchor name) =>
    skip
    match ← peek with
    | some (.tag tag) =>
      skip
      return (some name, some tag)
    | _ => return (some name, none)
  | some (.tag tag) =>
    skip
    match ← peek with
    | some (.anchor name) =>
      skip
      return (some name, some tag)
    | _ => return (none, some tag)
  | _ => return (none, none)

/-! ### Nodes -/

/-- Where a node stands. -/
inductive Position where
  /-- In a block, or at the top. -/
  | block
  /-- A key or value of a block, which may be a sequence that is not indented. -/
  | blockMember
  | flow
  deriving DecidableEq

mutual

/-- A node that must be there. -/
def node (position : Position) : Nat → NodeReader Node
  | 0 => throw .unexpectedToken
  | fuel + 1 => do
    if let some (.alias name) ← peek then
      skip
      return .alias (← findAnchor name)
    let (name?, tag?) ← properties
    let tag ← tag?.mapM wholeTag
    let token ← peek
    match token with
    | some .blockEntry | some .blockSequenceStart | some .blockMappingStart =>
      if position == .flow || (token == some .blockEntry && position == .block) then
        leftOut name? tag
      else
        let said : Properties := ⟨← name?.mapM giveAnchor, tag⟩
        match token with
        | some .blockEntry => return .sequence said (← flushItems fuel)
        | some .blockSequenceStart =>
          skip
          return .sequence said (← blockItems fuel)
        | _ =>
          skip
          return .mapping said (← blockMembers fuel)
    | some (.scalar text isPlain) =>
      skip
      return .scalar ⟨← name?.mapM giveAnchor, if tag == some "!" then none else tag⟩ text isPlain
    | some .flowSequenceStart =>
      skip
      let said : Properties := ⟨← name?.mapM giveAnchor, tag⟩
      return .sequence said (← flowItems true fuel)
    | some .flowMappingStart =>
      skip
      let said : Properties := ⟨← name?.mapM giveAnchor, tag⟩
      return .mapping said (← flowMembers true fuel)
    | _ => leftOut name? tag

/-- The empty node of properties after which nothing comes; there must be some. -/
def leftOut (name? tag : Option String) : NodeReader Node := do
  if name?.isNone && tag.isNone then throw .unexpectedToken
  return .scalar ⟨← name?.mapM giveAnchor, tag⟩ "" true

/-- A node, or the empty one before some tokens. -/
def nodeBefore (position : Position) (ends : List Token) : Nat → NodeReader Node
  | 0 => throw .unexpectedToken
  | fuel + 1 => do if ← isNext ends then return Node.empty else node position fuel

/-- The items of a block up to its end. -/
def blockItems : Nat → NodeReader (List Node)
  | 0 => throw .unexpectedToken
  | fuel + 1 => do
    if ← accept .blockEntry then
      let first ← nodeBefore .block [.blockEntry, .blockEnd] fuel
      return first :: (← blockItems fuel)
    else
      expect .blockEnd
      return []

/-- The items of a sequence that is not indented. -/
def flushItems : Nat → NodeReader (List Node)
  | 0 => throw .unexpectedToken
  | fuel + 1 => do
    if ← accept .blockEntry then
      let first ← nodeBefore .block [.blockEntry, .key, .value, .blockEnd] fuel
      return first :: (← flushItems fuel)
    else return []

/-- The members of a block up to its end. -/
def blockMembers : Nat → NodeReader (List (Node × Node))
  | 0 => throw .unexpectedToken
  | fuel + 1 => do
    if ← accept .key then
      let ends : List Token := [.key, .value, .blockEnd]
      let key ← nodeBefore .blockMember ends fuel
      let value ← do
        if ← accept .value then nodeBefore .blockMember ends fuel else pure Node.empty
      return (key, value) :: (← blockMembers fuel)
    else
      expect .blockEnd
      return []

/-- The items of a flow sequence up to its bracket; a comma comes before all but the first. -/
def flowItems (isFirst : Bool) : Nat → NodeReader (List Node)
  | 0 => throw .unexpectedToken
  | fuel + 1 => do
    if ← accept .flowSequenceEnd then return []
    if !isFirst then expect .flowEntry
    if ← accept .flowSequenceEnd then return []
    let item ← do
      if ← accept .key then
        pure (Node.mapping {} [← pairInSequence fuel])
      else node .flow fuel
    return item :: (← flowItems false fuel)

/-- A single pair in a flow sequence, after its key mark. A token that ends the pair where its key
should be is passed over. -/
def pairInSequence : Nat → NodeReader (Node × Node)
  | 0 => throw .unexpectedToken
  | fuel + 1 => do
    let key ← do
      if ← isNext [.value, .flowEntry, .flowSequenceEnd] then
        skip
        pure Node.empty
      else node .flow fuel
    let value ← do
      if ← accept .value then nodeBefore .flow [.flowEntry, .flowSequenceEnd] fuel
      else pure Node.empty
    return (key, value)

/-- The members of a flow mapping up to its brace; a comma comes before all but the first. -/
def flowMembers (isFirst : Bool) : Nat → NodeReader (List (Node × Node))
  | 0 => throw .unexpectedToken
  | fuel + 1 => do
    if ← accept .flowMappingEnd then return []
    if !isFirst then expect .flowEntry
    if ← accept .flowMappingEnd then return []
    let member ← do
      if ← accept .key then
        let key ← nodeBefore .flow [.value, .flowEntry, .flowMappingEnd] fuel
        let value ← do
          if ← accept .value then nodeBefore .flow [.flowEntry, .flowMappingEnd] fuel
          else pure Node.empty
        pure (key, value)
      else
        pure (← node .flow fuel, Node.empty)
    return member :: (← flowMembers false fuel)

end

/-! ### Documents -/

/-- The handles that every document has. -/
def commonHandles : List (String × String) :=
  [("!", "!"), ("!!", "tag:yaml.org,2002:")]

/-- Reads the directives before a document; `true` if there were any. The version may be given once,
and a handle once. -/
def directives (versionGiven : Bool) (handles : List (String × String)) :
    Nat → NodeReader (List (String × String) × Bool)
  | 0 => throw .unexpectedToken
  | fuel + 1 => do
    match ← peek with
    | some (.version major minor) =>
      if versionGiven || major != 1 || (minor != 1 && minor != 2) then throw .badDirective
      skip
      return ((← directives true handles fuel).1, true)
    | some (.tagHandle handle beginning) =>
      if (handles.lookup handle).isSome then throw .badDirective
      skip
      return ((← directives versionGiven ((handle, beginning) :: handles) fuel).1, true)
    | _ => return (handles, false)

/-- Passes the marks of the end of a document. -/
def documentEnds : Nat → NodeReader Unit
  | 0 => pure ()
  | fuel + 1 => do if ← accept .documentEnd then documentEnds fuel

/-- The only document of a text, or nothing. A document with directives begins with its marker. -/
def document (fuel : Nat) : NodeReader (Option Node) := do
  if (← peek).isNone then return none
  let (handles, isAnnounced) ← directives false [] fuel
  modify fun s ↦ { s with handles := handles ++ commonHandles }
  let root ← do
    if isAnnounced || (← isNext [.documentStart]) then
      expect .documentStart
      if (← peek).isNone || (← isNext [.documentStart, .documentEnd]) then pure Node.empty
      else node .block fuel
    else node .block fuel
  documentEnds fuel
  if (← peek).isSome then throw .severalDocuments
  return some root

end NodeReader

/-- The only document of a text, or nothing if the text is empty. -/
def Node.read? (text : String) : Except Fault (Option Node) := do
  let ts ← tokens text
  let start : TokenStream := { tokens := ts, handles := NodeReader.commonHandles }
  let (root, _) ← NodeReader.document (4 * ts.length + 4) start
  return root

end WebRecipe.Yaml
