import WebRecipe.Condition.Expr

/-!
# What a condition may contain

Before a condition is evaluated its whole tree is checked. `check` refuses every form that could
define, change or construct something, every name that leads out of the values of the condition, and
every call that is neither a function of `Math` nor one of the listed methods. The checks go from left
to right and the first violation is reported.
-/

namespace WebRecipe.Condition

/-- The names that no identifier, member or property may have. -/
def blockedNames : List String :=
  ["__proto__", "constructor", "prototype", "eval", "Function", "require", "import", "process",
    "global", "globalThis"]

/-- The methods that may be called on any value. -/
def safeMethods : List String :=
  ["includes", "startsWith", "endsWith", "toLowerCase", "toUpperCase", "trim", "trimStart",
    "trimEnd", "slice", "substring", "substr", "indexOf", "lastIndexOf", "charAt", "charCodeAt",
    "split", "replace", "match", "search", "repeat", "padStart", "padEnd", "length", "join",
    "concat", "reverse", "sort", "filter", "map", "reduce", "some", "every", "find", "findIndex",
    "flat", "flatMap", "toString", "valueOf"]

/-- The name of the namespace of mathematical functions. -/
def mathName : String := "Math"

/-- Whether a name is blocked. -/
def isBlocked (name : String) : Bool :=
  blockedNames.contains name

/-- Whether a method may be called. -/
def isSafeMethod (name : String) : Bool :=
  safeMethods.contains name

/-- Why a tree is refused. -/
inductive Violation where
  | blockedIdentifier (name : String)
  | blockedProperty (name : String)
  | functionDefinition
  | classDefinition
  | assignment
  | update
  | construction
  | thisKeyword
  | sequence
  | spreadElement
  | spreadProperty
  | unaryOperator (op : UnaryOp)
  | instanceOf
  | nullish
  | notMethodCall
  | unlistedMethod (name : String)
  | computedMethod
  deriving Repr, DecidableEq

/-- The wording of a violation. -/
def Violation.message : Violation → String
  | blockedIdentifier name => "Access to identifier '" ++ name ++ "' is not allowed"
  | blockedProperty name => "Access to property '" ++ name ++ "' is not allowed"
  | functionDefinition => "Function definitions are not allowed"
  | classDefinition => "Class definitions are not allowed"
  | assignment => "Assignments are not allowed"
  | update => "Update expressions (++/--) are not allowed"
  | construction => "Object construction (new) is not allowed"
  | thisKeyword => "The \"this\" keyword is not allowed"
  | sequence => "Sequence expressions (comma operator) are not allowed"
  | spreadElement => "Spread elements are not allowed"
  | spreadProperty => "Spread properties are not allowed"
  | unaryOperator op => "Unsafe unary operator: " ++ op.token
  | instanceOf => "Unsupported operator: instanceof"
  | nullish => "Unsupported operator: ??"
  | notMethodCall => "Only method calls are allowed"
  | unlistedMethod name => "Method '" ++ name ++ "' is not whitelisted"
  | computedMethod => "Computed method names are not allowed"

/-- The operators written before an operand that are allowed. -/
def UnaryOp.isSafe : UnaryOp → Bool
  | neg | plus | not | typeOf => true
  | void | delete | bitNot | await => false

/-- The name that a member key writes as it is: after a point, or as a string between brackets. -/
def MemberKey.constant? : MemberKey → Option String
  | name n => some n
  | computed (.text s) => some s
  | computed _ => none

/-- Whether an expression is the namespace of mathematical functions. -/
def Expr.isMath : Expr → Bool
  | ident name => name == mathName
  | _ => false

/-- Refuses a blocked name. -/
def refuseBlocked (name : String) : Except Violation Unit :=
  if isBlocked name then .error (.blockedProperty name) else .ok ()

/-- Refuses a call of a method that is not on the list; any method of `Math` may be called. -/
def checkMethod (target : Expr) (key : MemberKey) : Except Violation Unit :=
  if target.isMath then .ok ()
  else
    match key.constant? with
    | some name => if isSafeMethod name then .ok () else .error (.unlistedMethod name)
    | none => .error .computedMethod

mutual

/-- Refuses a tree that holds, at any depth, a form outside the allowed ones. -/
def check : Expr → Except Violation Unit
  | .number _ => .ok ()
  | .text _ => .ok ()
  | .bool _ => .ok ()
  | .null => .ok ()
  | .undefined => .ok ()
  | .ident name => if isBlocked name then .error (.blockedIdentifier name) else .ok ()
  | .template _ rest => checkHoles rest
  | .array items => checkAll items
  | .object entries => checkEntries entries
  | .member target key => do
    check target
    checkMemberKey key
  | .call (.member target key) args => do
    check target
    checkMemberKey key
    checkMethod target key
    checkAll args
  | .call callee _ => do
    check callee
    .error .notMethodCall
  | .unary op operand => if op.isSafe then check operand else .error (.unaryOperator op)
  | .binary op left right => do
    if op = .instanceOf then .error .instanceOf
    check left
    check right
  | .logical op left right => do
    if op = .nullish then .error .nullish
    check left
    check right
  | .conditional test consequent alternate => do
    check test
    check consequent
    check alternate
  | .function => .error .functionDefinition
  | .arrow => .error .functionDefinition
  | .classBody => .error .classDefinition
  | .assignment _ _ => .error .assignment
  | .update _ => .error .update
  | .construct _ _ => .error .construction
  | .this => .error .thisKeyword
  | .sequence _ _ _ => .error .sequence
  | .spread _ => .error .spreadElement

/-- Checks expressions from left to right. -/
def checkAll : List Expr → Except Violation Unit
  | [] => .ok ()
  | e :: rest => do
    check e
    checkAll rest

/-- Checks the substitutions of a template. -/
def checkHoles : List (Expr × String) → Except Violation Unit
  | [] => .ok ()
  | (e, _) :: rest => do
    check e
    checkHoles rest

/-- Checks the entries of an object literal. -/
def checkEntries : List Entry → Except Violation Unit
  | [] => .ok ()
  | .spread _ :: _ => .error .spreadProperty
  | .property key value :: rest => do
    checkPropertyKey key
    check value
    checkEntries rest

/-- Checks the key of a property: a plain one must not be blocked. -/
def checkPropertyKey : PropertyKey → Except Violation Unit
  | .name n => refuseBlocked n
  | .computed e => check e

/-- Checks the key of a member: neither a name nor a string between brackets may be blocked. -/
def checkMemberKey : MemberKey → Except Violation Unit
  | .name n => refuseBlocked n
  | .computed (.text s) => refuseBlocked s
  | .computed e => check e

end

end WebRecipe.Condition
