import WebRecipe.Condition.Grammar
import WebRecipe.Condition.Eval

/-!
# Conditions

A condition is a text that is read, checked against the policy and only then evaluated. Nothing in a
condition can define a function, change a value or reach anything but the values bound to names.
-/

namespace WebRecipe

/-- Why a condition cannot be used; the text of the condition is part of the message. -/
inductive ConditionError where
  | empty
  | malformed (source : String) (error : Condition.SyntaxError)
  | refused (source : String) (violation : Condition.Violation)
  | failed (source : String) (error : Condition.EvalError)
  deriving Repr

/-- The wording of an error. -/
def ConditionError.message : ConditionError → String
  | empty => "Expression cannot be empty"
  | malformed source e => "Syntax error in expression: " ++ source ++ ". " ++ e.message
  | refused source v => "Unsafe expression \"" ++ source ++ "\": " ++ v.message
  | failed source e => "Failed to evaluate condition \"" ++ source ++ "\": " ++ e.message

namespace Condition

/-- Reads a condition and checks it against the policy. -/
def accept (source : String) : Except ConditionError Expr :=
  if (Text.trim source.toList).isEmpty then .error .empty
  else
    match Expr.parse source with
    | .error e => .error (.malformed source e)
    | .ok tree =>
      match check tree with
      | .error v => .error (.refused source v)
      | .ok () => .ok tree

/-- Whether a text is a condition that the policy accepts. -/
def isValid (source : String) : Bool :=
  match accept source with
  | .ok _ => true
  | .error _ => false

/-- The value of a condition. -/
def valueOf (source : String) (b : Bindings) : Except ConditionError Value := do
  let tree ← accept source
  match evaluate b tree with
  | .ok v => .ok v
  | .error e => .error (.failed source e)

/-- The value of a condition as a JSON value. -/
def jsonOf (source : String) (b : Bindings) : Except ConditionError Json := do
  return (← valueOf source b).toJson

/-- Whether a condition holds. -/
def holds (source : String) (b : Bindings) : Except ConditionError Bool := do
  return (← valueOf source b).truthy

end Condition
end WebRecipe
