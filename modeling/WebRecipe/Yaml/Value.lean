import WebRecipe.Json.Basic
import WebRecipe.Yaml.Node

/-!
# Values of YAML documents

The JSON value of a document. A plain scalar is null, a boolean or a number when it is written like
one, and otherwise a text, as any other scalar is; a tag of the core schema settles which it is. The
text of a scalar is the key of a member, whatever it looks like.

Collections may be nested 128 deep, and aliases may be followed a hundred times for every part of the
document.
-/

namespace WebRecipe.Yaml

/-! ### Scalars -/

/-- Whether a text is one of the four ways to write null. -/
def isNullText (text : String) : Bool :=
  ["null", "Null", "NULL", "~"].contains text

/-- The boolean that a text writes. -/
def readBool? (text : String) : Option Bool :=
  if ["true", "True", "TRUE"].contains text then some true
  else if ["false", "False", "FALSE"].contains text then some false
  else none

/-- Whether digits follow a leading zero, which makes a text of them. -/
def hasLeadingZero (cs : List Char) : Bool :=
  let unsigned := match cs with
    | '-' :: rest => rest
    | '+' :: rest => rest
    | _ => cs
  match unsigned with
  | '0' :: d :: rest => (d :: rest).all isDigit
  | _ => false

private def radixDigits? (cs : List Char) : Option (Nat × List Char) :=
  match cs with
  | '0' :: 'x' :: rest => some (16, rest)
  | '0' :: 'o' :: rest => some (8, rest)
  | '0' :: 'b' :: rest => some (2, rest)
  | _ => none

/-- The number that digits write, in a base that they may name first. -/
def readMagnitude? (cs : List Char) : Option Nat :=
  let (base, digits) := (radixDigits? cs).getD (10, cs)
  if digits.isEmpty then none else digitsValue? base digits

/-- The integer that a text writes. -/
def readWhole? (cs : List Char) : Option Int :=
  if hasLeadingZero cs then none
  else
    match cs with
    | '-' :: rest => (readMagnitude? rest).map fun n ↦ -(n : Int)
    | '+' :: rest => (readMagnitude? rest).map Int.ofNat
    | _ => (readMagnitude? cs).map Int.ofNat

/-- What an integer comes to. -/
inductive Whole where
  | fits (n : Int)
  /-- More than 64 bits, but not more than 128. -/
  | tooLarge
  | notWhole

/-- What the integer that a text writes comes to; beyond 128 bits it is none. -/
def Whole.ofText (text : String) : Whole :=
  match readWhole? text.toList with
  | none => .notWhole
  | some n =>
    if Json.minInt64 ≤ n ∧ n < (Nat.pow 2 64 : Nat) then .fits n
    else if -(Nat.pow 2 127 : Nat) ≤ n ∧ n < (Nat.pow 2 128 : Nat) then .tooLarge
    else .notWhole

/-- The double that a text writes: a finite one in digits, or an infinity or the number that is none,
each after a point. -/
def readDouble? (text : String) : Option Float :=
  if [".inf", ".Inf", ".INF", "+.inf", "+.Inf", "+.INF"].contains text then some (1.0 / 0.0)
  else if ["-.inf", "-.Inf", "-.INF"].contains text then some (-1.0 / 0.0)
  else if [".nan", ".NaN", ".NAN"].contains text then some (0.0 / 0.0)
  else
    match readDecimal? text.toList with
    | some x => if x.isFinite then some x else none
    | none => none

/-- The JSON value of a double; there is none for those that are not finite. -/
def doubleValue (x : Float) : Json :=
  if x.isFinite then .double x else .null

/-- The value of a plain scalar. -/
def plainValue (text : String) : Except Fault Json :=
  if text.isEmpty || isNullText text then .ok .null
  else
    match readBool? text with
    | some b => .ok (.bool b)
    | none =>
      match Whole.ofText text with
      | .fits n => .ok (.int n)
      | .tooLarge => .error .integerTooLarge
      | .notWhole =>
        if hasLeadingZero text.toList then .ok (.str text)
        else
          match readDouble? text with
          | some x => .ok (doubleValue x)
          | none => .ok (.str text)

/-- Where the tags of the core schema begin. -/
def coreTag (name : String) : String :=
  "tag:yaml.org,2002:" ++ name

/-- Whether a tag is one that only an application understands. -/
def isPrivateTag (tag : String) : Bool :=
  tag.startsWith "!"

/-- The value of a scalar whose tag is no private one. -/
def scalarValue (tag : Option String) (text : String) (isPlain : Bool) : Except Fault Json :=
  match tag with
  | none => if isPlain then plainValue text else .ok (.str text)
  | some tag =>
    if tag == coreTag "bool" then
      match readBool? text with
      | some b => .ok (.bool b)
      | none => .error .tagMismatch
    else if tag == coreTag "int" then
      match Whole.ofText text with
      | .fits n => .ok (.int n)
      | .tooLarge => .error .integerTooLarge
      | .notWhole => .error .tagMismatch
    else if tag == coreTag "float" then
      match readDouble? text with
      | some x => .ok (doubleValue x)
      | none => .error .tagMismatch
    else if tag == coreTag "null" then
      if isNullText text then .ok .null else .error .tagMismatch
    else .ok (.str text)

/-! ### Parts of documents -/

namespace Node

mutual

/-- How many beginnings and ends of nodes there are in a node. -/
def eventCount : Node → Nat
  | .alias _ => 1
  | .scalar .. => 1
  | .sequence _ items => 2 + eventCounts items
  | .mapping _ members => 2 + memberEventCounts members

private def eventCounts : List Node → Nat
  | [] => 0
  | n :: rest => eventCount n + eventCounts rest

private def memberEventCounts : List (Node × Node) → Nat
  | [] => 0
  | (k, v) :: rest => eventCount k + eventCount v + memberEventCounts rest

end

/-- A node with its anchor, if it has one. -/
private def anchored (properties : Properties) (n : Node) : List (Nat × Node) :=
  match properties.anchor with
  | some number => [(number, n)]
  | none => []

mutual

/-- The anchored nodes in the order in which they begin. -/
def anchors : Node → List (Nat × Node)
  | .alias _ => []
  | .scalar properties text isPlain => anchored properties (.scalar properties text isPlain)
  | .sequence properties items =>
    anchored properties (.sequence properties items) ++ itemAnchors items
  | .mapping properties members =>
    anchored properties (.mapping properties members) ++ memberAnchors members

private def itemAnchors : List Node → List (Nat × Node)
  | [] => []
  | n :: rest => anchors n ++ itemAnchors rest

private def memberAnchors : List (Node × Node) → List (Nat × Node)
  | [] => []
  | (k, v) :: rest => anchors k ++ anchors v ++ memberAnchors rest

end

end Node

/-! ### Values -/

/-- What aliases stand for, and how often they may be followed. -/
structure AliasPolicy where
  /-- Of two nodes with the same anchor the last counts. -/
  targets : List (Nat × Node)
  maxFollowed : Nat

/-- The policy of a document. -/
def AliasPolicy.ofNode (root : Node) : AliasPolicy where
  targets := root.anchors.reverse
  maxFollowed := 100 * root.eventCount

/-- A computation that counts the aliases that it follows. -/
abbrev Following := StateT Nat (Except Fault)

/-- The node that stands where a node is written. -/
def AliasPolicy.follow (policy : AliasPolicy) : Node → Following Node
  | .alias number => do
    modify (· + 1)
    if policy.maxFollowed < (← get) then throw .tooManyAliases
    match policy.targets.lookup number with
    | some target => return target
    | none => throw .unknownAnchor
  | n => return n

private def checkTag (properties : Properties) : Following Unit :=
  if properties.tag.any isPrivateTag then throw .privateTag else pure ()

/-- The key that a node is. -/
def AliasPolicy.key (policy : AliasPolicy) (n : Node) : Following String := do
  match ← policy.follow n with
  | .scalar _ text _ => return text
  | _ => throw .keyNotScalar

/-- The value of a node in which collections are nested at most so deep. -/
def AliasPolicy.value (policy : AliasPolicy) : Nat → Node → Following Json
  | 0, n => do
    match ← policy.follow n with
    | .scalar properties text isPlain =>
      checkTag properties
      scalarValue properties.tag text isPlain
    | _ => throw .tooDeep
  | depth + 1, n => do
    match ← policy.follow n with
    | .scalar properties text isPlain =>
      checkTag properties
      scalarValue properties.tag text isPlain
    | .sequence properties items =>
      checkTag properties
      return .arr (← items.mapM (policy.value depth))
    | .mapping properties members =>
      checkTag properties
      let values ← members.mapM fun m ↦ do
        return (← policy.key m.1, ← policy.value depth m.2)
      return .obj (Members.ofList values)
    | .alias _ => throw .unknownAnchor

/-- How deep collections may be nested. -/
def maxDepth : Nat := 128

/-- The JSON value of a node that is a whole document. -/
def Node.toJson (root : Node) : Except Fault Json := do
  let (v, _) ← (AliasPolicy.ofNode root).value maxDepth root 0
  return v

/-- Reads the only document of a text; an empty text is null. -/
def parse (text : String) : Except Fault Json := do
  match ← Node.read? text with
  | none => return .null
  | some root => root.toJson

end WebRecipe.Yaml
