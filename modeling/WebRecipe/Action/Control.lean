import WebRecipe.Action.Basic
import WebRecipe.Condition.Basic
import WebRecipe.Path

/-!
# Actions that control others

Branches and loops. Conditions see nothing but the value that was handed on, and are looked at as a
whole before anything runs. The nested actions run one block deeper.
-/

namespace WebRecipe.Action

/-- What a condition sees of the value that was handed on. -/
def bindingsOf (input : Option Json) : Condition.Bindings :=
  Condition.Bindings.bind [] Key.input
    (match input with | some v => .ofJson v | none => .undefined)

/-- Whether a condition holds for the value that was handed on last. -/
def conditionHolds (action condition : String) : Action Bool := do
  let input ← get Key.input
  orFail (.condition action) (Condition.holds condition (bindingsOf input))

/-- The condition of an action, if it is one. -/
def conditionOf (action : String) (ps : Members) : Except ActionError String := do
  let condition ← ps.text action "condition"
  match Condition.accept condition with
  | .ok _ => return condition
  | .error e => throw (.condition action e)

/-- Runs a block, and shows a line at its end if it succeeds. -/
def showEnd (text : String) (block : Action Unit) : Action Unit := do
  indented block
  display text

/-- Performs the actions of one of two branches. -/
def branch (action : String) (hasElse : Bool) : Handler := fun cx ps ↦ do
  let condition ← ofExcept (conditionOf action ps)
  let actions ← ofExcept (ps.body action "actions")
  let elseActions ← ofExcept (if hasElse then some <$> ps.body action "elseActions" else pure none)
  display (": Condition: " ++ condition)
  if ← conditionHolds action condition then
    display ": Condition is true"
    showEnd ": End of if" (cx.runBlock actions)
  else
    display ": Condition is false"
    match elseActions with
    | some block => showEnd ": End of if" (cx.runBlock block)
    | none => return ()

/-- Performs actions if a condition holds. -/
def ifTrue : Handler := branch "if" false

/-- Performs actions if a condition holds, and others if it does not. -/
def ifElse : Handler := branch "ifElse" true

/-- The rounds of a counting loop, `count` of them beginning with the value `i`. -/
def countingRounds (cx : Context) (actions : List ActionCall) (limit step : Int) :
    Nat → Int → Action Unit
  | 0, _ => return ()
  | count + 1, i => do
    display (": [" ++ toString i ++ "/" ++ toString limit ++ "]")
    setInput (.int i)
    cx.runBlock actions
    countingRounds cx actions limit step count (i + step)

/-- How many values there are from `start` up to `limit` in positive steps. -/
def roundCount (start limit step : Int) : Nat :=
  if start ≤ limit then ((limit - start) / step).toNat + 1 else 0

/-- Performs actions for the numbers from one to another. -/
def countingLoop : Handler := fun cx ps ↦ do
  let start := ps.integer "from" 0
  let limit := ps.integer "until" 0
  let step := ps.integer "step" 1
  let actions ← ofExcept (ps.body "for" "actions")
  if step ≤ 0 ∧ start ≤ limit then
    throw (.failed "for" ("step must be positive, got " ++ toString step))
  showEnd ": End of for loop"
    (countingRounds cx actions limit step (roundCount start limit step) start)

/-- The rounds of a loop over items, the first one with the given number. -/
def itemRounds (cx : Context) (actions : List ActionCall) (key : String) (total : Nat) :
    Nat → List Json → Action Unit
  | _, [] => return ()
  | n, item :: rest => do
    display (": " ++ key ++ "[" ++ toString n ++ "/" ++ toString total ++ "]: " ++
      Path.sanitize item.text)
    setInput item
    cx.runBlock actions
    itemRounds cx actions key total (n + 1) rest

/-- Performs actions for the items that a list has when the loop begins. -/
def itemLoop : Handler := fun cx ps ↦ do
  let key ← ofExcept (ps.text "forEach" "key")
  let actions ← ofExcept (ps.body "forEach" "actions")
  match ← get key with
  | some (.arr items) =>
    showEnd ": End of forEach" (itemRounds cx actions key items.length 1 items)
  | some other =>
    throw (.failed "forEach" ("Variable " ++ key ++ " is not a list (" ++ other.text ++ ")"))
  | none => throw (.failed "forEach" ("Variable " ++ key ++ " is not set"))

/-- The rounds of a loop under a condition, as many as patience allows. -/
def conditionRounds (cx : Context) (actions : List ActionCall) (condition : String) :
    Nat → Action Unit
  | 0 => unfinished
  | patience + 1 => do
    if ← conditionHolds "while" condition then
      cx.runBlock actions
      conditionRounds cx actions condition patience

/-- Performs actions while a condition holds. -/
def conditionLoop : Handler := fun cx ps ↦ do
  let condition ← ofExcept (conditionOf "while" ps)
  let actions ← ofExcept (ps.body "while" "actions")
  showEnd ": End of while loop" (conditionRounds cx actions condition cx.patience)

end WebRecipe.Action
