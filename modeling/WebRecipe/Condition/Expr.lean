/-!
# Trees of the condition language

The tree of a condition. It covers every form that the grammar reads, including the forms that the
policy always refuses, so that a refusal can name the form. Two rules of the grammar are part of the
type: a template has one more piece of text than substitutions, and a sequence has at least two
items.
-/

namespace WebRecipe.Condition

/-- Operators written before their operand. -/
inductive UnaryOp where
  | neg
  | plus
  | not
  | typeOf
  | void
  | delete
  | bitNot
  | await
  deriving Repr, DecidableEq

/-- How a unary operator is written. -/
def UnaryOp.token : UnaryOp → String
  | neg => "-"
  | plus => "+"
  | not => "!"
  | typeOf => "typeof"
  | void => "void"
  | delete => "delete"
  | bitNot => "~"
  | await => "await"

/-- Operators that evaluate both operands. -/
inductive BinaryOp where
  | add
  | sub
  | mul
  | div
  | rem
  | pow
  | eq
  | notEq
  | strictEq
  | strictNotEq
  | lt
  | ltEq
  | gt
  | gtEq
  | isIn
  | instanceOf
  deriving Repr, DecidableEq

/-- Operators that evaluate their right operand only when it decides. -/
inductive LogicalOp where
  | and
  | or
  | nullish
  deriving Repr, DecidableEq

mutual

/-- A condition, or a part of one. -/
inductive Expr where
  | number (value : Float)
  | text (value : String)
  | bool (value : Bool)
  | null
  | undefined
  | template (head : String) (rest : List (Expr × String))
  | ident (name : String)
  | array (items : List Expr)
  | object (entries : List Entry)
  | member (target : Expr) (key : MemberKey)
  | call (callee : Expr) (args : List Expr)
  | unary (op : UnaryOp) (operand : Expr)
  | binary (op : BinaryOp) (left right : Expr)
  | logical (op : LogicalOp) (left right : Expr)
  | conditional (test consequent alternate : Expr)
  /-- A function definition, which is always refused. -/
  | function
  /-- An arrow function, which is always refused. -/
  | arrow
  /-- A class definition, which is always refused. -/
  | classBody
  /-- An assignment, which is always refused. -/
  | assignment (target value : Expr)
  /-- An increment or decrement, which is always refused. -/
  | update (operand : Expr)
  /-- An object construction, which is always refused. -/
  | construct (callee : Expr) (args : List Expr)
  /-- The receiver keyword, which is always refused. -/
  | this
  /-- Expressions joined by commas, which are always refused. -/
  | sequence (first second : Expr) (rest : List Expr)
  /-- A spread element, which is always refused. -/
  | spread (operand : Expr)

/-- What names a member: a word after a point, or an expression between brackets. -/
inductive MemberKey where
  | name (name : String)
  | computed (key : Expr)

/-- An entry of an object literal. -/
inductive Entry where
  | property (key : PropertyKey) (value : Expr)
  /-- The entries of another object, which are always refused. -/
  | spread (operand : Expr)

/-- The key of a property in an object literal. -/
inductive PropertyKey where
  | name (name : String)
  | computed (key : Expr)

end

instance : Inhabited Expr := ⟨.null⟩

namespace Expr

/-- The pieces of text of a template. -/
def templatePieces (head : String) (rest : List (Expr × String)) : List String :=
  head :: rest.map Prod.snd

/-- The substitutions of a template. -/
def templateHoles (rest : List (Expr × String)) : List Expr :=
  rest.map Prod.fst

end Expr
end WebRecipe.Condition
