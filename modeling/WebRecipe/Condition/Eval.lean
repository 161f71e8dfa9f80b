import WebRecipe.Condition.Methods

/-!
# Evaluation of conditions

The value of a tree under a set of bindings. Operands are evaluated from left to right, the right
operand of `&&` and `||` and the branches of a choice only where they decide. Forms that the policy
refuses are never evaluated.
-/

namespace WebRecipe.Condition

/-- The values of the names that a condition may use; the first entry of a name counts. -/
abbrev Bindings := List (String × Value)

namespace Bindings

/-- The value of a name. The namespace of mathematical functions is bound unless its name is. -/
def find (b : Bindings) (name : String) : Except EvalError Value :=
  match b.lookup name with
  | some v => .ok v
  | none => if name = mathName then .ok .math else .error (.undefinedVariable name)

/-- The bindings with a name bound. -/
def bind (b : Bindings) (name : String) (v : Value) : Bindings :=
  (name, v) :: b

end Bindings

/-- The position that a property key writes in decimal. -/
def indexKey? (key : String) : Option Nat :=
  readNatural? 10 (Nat.pow 2 64) key.toList

/-- A property of a value. -/
def getProperty (v : Value) (key : String) : Except EvalError Value :=
  match v with
  | .undefined => .error (.propertyOfNothing key v.toText)
  | .null => .error (.propertyOfNothing key v.toText)
  | .text s =>
    if key = "length" then .ok (.number (Float.ofNat s.length))
    else
      match (indexKey? key).bind (s.toList[·]?) with
      | some c => .ok (.text c.toString)
      | none => .ok .undefined
  | .array items =>
    if key = "length" then .ok (.number (Float.ofNat items.length))
    else .ok (((indexKey? key).bind (items[·]?)).getD .undefined)
  | .object properties => .ok ((properties.lookup key).getD .undefined)
  | .math =>
    match mathConstant? key with
    | some x => .ok (.number x)
    | none => .ok .undefined
  | .bool _ => .ok .undefined
  | .number _ => .ok .undefined

/-- Whether a value has a property. -/
def hasProperty (key : String) (v : Value) : Except EvalError Bool :=
  match v with
  | .object properties => .ok ((properties.lookup key).isSome)
  | .array items =>
    .ok (key == "length" || (match indexKey? key with
      | some i => decide (i < items.length)
      | none => false))
  | .math => .ok (mathConstant? key).isSome
  | _ => .error (.searchOperand key v.toText)

/-- A method of a value. -/
def callMethod (v : Value) (method : String) (args : Arguments) : Except EvalError Value :=
  match v with
  | .undefined => .error (.propertyOfNothing method v.toText)
  | .null => .error (.propertyOfNothing method v.toText)
  | .math => callMath method args
  | _ =>
    if method = "toString" then .ok (.text v.toText)
    else if method = "valueOf" then .ok v
    else
      match v with
      | .text s => callTextMethod s method args
      | .array items => callArrayMethod items method args
      | _ => .error (.notFunction v.typeName method)

/-- The sum of two numbers, or the two texts joined where a side is a text or made of parts. -/
def addValues (v w : Value) : Value :=
  match v.toPrimitive, w.toPrimitive with
  | .text s, b => .text (s ++ b.toText)
  | a, .text t => .text (a.toText ++ t)
  | a, b => .number (a.toNumber + b.toNumber)

/-- An operation on two values as numbers. -/
def arithmetic (f : Float → Float → Float) (v w : Value) : Except EvalError Value :=
  .ok (.number (f v.toNumber w.toNumber))

/-- Whether two values are in one of the accepted orders. -/
def ordered (accept : Ordering → Bool) (v w : Value) : Except EvalError Value :=
  .ok (.bool (match v.compare w with
    | some o => accept o
    | none => false))

/-- An operator on the values of its operands. -/
def applyBinary (op : BinaryOp) (v w : Value) : Except EvalError Value :=
  match op with
  | .add => .ok (addValues v w)
  | .sub => arithmetic (· - ·) v w
  | .mul => arithmetic (· * ·) v w
  | .div => arithmetic (· / ·) v w
  | .rem => arithmetic Double.remainder v w
  | .pow => arithmetic Float.pow v w
  | .eq => .ok (.bool (v.looseEq w))
  | .notEq => .ok (.bool (!v.looseEq w))
  | .strictEq => .ok (.bool (v.strictEq w))
  | .strictNotEq => .ok (.bool (!v.strictEq w))
  | .lt => ordered (· == .lt) v w
  | .ltEq => ordered (· != .gt) v w
  | .gt => ordered (· == .gt) v w
  | .gtEq => ordered (· != .lt) v w
  | .isIn => do return .bool (← hasProperty v.toText w)
  | .instanceOf => .error (.unsupported .instanceOf)

/-- An operator before its operand on the value of the operand. -/
def applyUnary (op : UnaryOp) (v : Value) : Except EvalError Value :=
  match op with
  | .neg => .ok (.number (-v.toNumber))
  | .plus => .ok (.number v.toNumber)
  | .not => .ok (.bool (!v.truthy))
  | .typeOf => .ok (.text v.typeName)
  | _ => .error (.unsupported (.unary op))

mutual

/-- The value of a tree. -/
def evaluate (b : Bindings) : Expr → Except EvalError Value
  | .number x => .ok (.number x)
  | .text s => .ok (.text s)
  | .bool v => .ok (.bool v)
  | .null => .ok .null
  | .undefined => .ok .undefined
  | .ident name => b.find name
  | .template head rest => do return .text (head ++ (← evaluateHoles b rest))
  | .array items => do return .array (← evaluateAll b items)
  | .object entries => do return .object (Value.sortedProperties (← evaluateEntries b entries))
  | .member target key => do
    let v ← evaluate b target
    let k ← evaluateMemberKey b key
    getProperty v k
  | .call (.member target key) args => do
    let v ← evaluate b target
    let k ← evaluateMemberKey b key
    let vs ← evaluateAll b args
    callMethod v k vs
  | .call _ _ => .error (.unsupported .callee)
  | .unary op operand => do
    let v ← evaluate b operand
    applyUnary op v
  | .binary op left right => do
    let v ← evaluate b left
    let w ← evaluate b right
    applyBinary op v w
  | .logical op left right => do
    let v ← evaluate b left
    match op with
    | .and => if v.truthy then evaluate b right else .ok v
    | .or => if v.truthy then .ok v else evaluate b right
    | .nullish => .error (.unsupported .nullish)
  | .conditional test consequent alternate => do
    let v ← evaluate b test
    if v.truthy then evaluate b consequent else evaluate b alternate
  | .function => .error (.unsupported .node)
  | .arrow => .error (.unsupported .node)
  | .classBody => .error (.unsupported .node)
  | .assignment _ _ => .error (.unsupported .node)
  | .update _ => .error (.unsupported .node)
  | .construct _ _ => .error (.unsupported .node)
  | .this => .error (.unsupported .node)
  | .sequence _ _ _ => .error (.unsupported .node)
  | .spread _ => .error (.unsupported .node)

/-- The values of expressions, from left to right. -/
def evaluateAll (b : Bindings) : List Expr → Except EvalError (List Value)
  | [] => .ok []
  | e :: rest => do
    let v ← evaluate b e
    let vs ← evaluateAll b rest
    return v :: vs

/-- The text of a template after its first piece. -/
def evaluateHoles (b : Bindings) : List (Expr × String) → Except EvalError String
  | [] => .ok ""
  | (e, piece) :: rest => do
    let v ← evaluate b e
    let after ← evaluateHoles b rest
    return v.toText ++ piece ++ after

/-- The settings of the properties of an object literal, in their order; other entries add none. -/
def evaluateEntries (b : Bindings) : List Entry → Except EvalError (List (String × Value))
  | [] => .ok []
  | .spread _ :: rest => evaluateEntries b rest
  | .property key value :: rest => do
    let k ← evaluatePropertyKey b key
    let v ← evaluate b value
    let vs ← evaluateEntries b rest
    return (k, v) :: vs

/-- The key of a property. -/
def evaluatePropertyKey (b : Bindings) : PropertyKey → Except EvalError String
  | .name n => .ok n
  | .computed e => do return (← evaluate b e).toText

/-- The key of a member. -/
def evaluateMemberKey (b : Bindings) : MemberKey → Except EvalError String
  | .name n => .ok n
  | .computed e => do return (← evaluate b e).toText

end

end WebRecipe.Condition
