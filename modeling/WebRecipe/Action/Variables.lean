import WebRecipe.Action.Basic
import WebRecipe.Json.Parser

/-!
# Actions on variables

Setting, reading, moving and deleting stored values, and counting.
-/

namespace WebRecipe.Action

/-- Puts a value under a name, or removes the name when there is nothing to put. -/
def learn (key : String) : Option Json → Action Unit
  | some v => put key v
  | none => do let _ ← access (.remove key)

/-- The element of a value at a position: an item of an array, a character of a text, or the member of
an object whose key is the position. -/
def elementAt (position : Float) (v : Json) : Option Json :=
  if position < 0.0 || !Double.isWhole position then none
  else
    let i := (Whole.ofFloat position).clamp (Nat.pow 2 64 - 1)
    match v with
    | .arr items => items[i]?
    | .str s => (s.toList[i]?).map (fun c ↦ .str c.toString)
    | .obj ms => Members.get? ms (toString i)
    | _ => none

/-- Sets a variable. -/
def setVariable : Handler := fun _ ps ↦ do
  let key ← ofExcept (ps.text "setVariable" "key")
  display (": Setting variable " ++ key)
  learn key (ps.get? "value")

/-- Hands a variable on, or one of its elements. -/
def getVariable : Handler := fun _ ps ↦ do
  let key ← ofExcept (ps.text "getVariable" "key")
  display (": Getting variable " ++ key)
  let value ← get key
  match ps.number? "index" with
  | some i => learn Key.input (value.bind (elementAt i))
  | none => learn Key.input value

/-- Deletes a variable. -/
def deleteVariable : Handler := fun _ ps ↦ do
  let key ← ofExcept (ps.text "deleteVariable" "key")
  display (": Deleting variable " ++ key)
  let _ ← access (.remove key)

/-- The member of a value; a text stands for the JSON value that it writes. -/
def memberOf (source field : String) : Option Json → Except ActionError (Option Json)
  | some (.str raw) =>
    match Json.parse raw with
    | .ok v => .ok (v.get? field)
    | .error e =>
      .error (.failed "transferVariable"
        ("Variable " ++ source ++ " is not valid JSON: " ++ e.message))
  | some v => .ok (v.get? field)
  | none => .ok none

/-- Copies a variable, one of its elements or one of its members to another variable. -/
def transferVariable : Handler := fun _ ps ↦ do
  let source ← ofExcept (ps.text "transferVariable" "from")
  let target ← ofExcept (ps.text "transferVariable" "to")
  display (": Transferring variable " ++ source ++ " to " ++ target)
  let value ← get source
  match ps.number? "index", ps.text? "key" with
  | some i, _ => learn target (value.bind (elementAt i))
  | none, some field => learn target (← ofExcept (memberOf source field value))
  | none, none => learn target value

/-- Appends to a variable. -/
def appendToVariable : Handler := fun _ ps ↦ do
  let key ← ofExcept (ps.text "appendToVariable" "key")
  display (": Appending to variable " ++ key)
  access (.push key ((ps.get? "value").getD .null))

/-- Sets a counter; it starts with zero unless a number is given. -/
def countStart : Handler := fun _ ps ↦ do
  let key ← ofExcept (ps.text "countStart" "key")
  let given := (ps.number? "value").filter (fun x ↦ x != 0.0 && !x.isNaN)
  let value := Json.ofDouble (given.getD 0.0)
  display (": Starting count " ++ key ++ " with value " ++ value.text)
  put key value

/-- Adds to a counter and yields its new value. -/
def addToCounter (action key : String) (difference : Float) : Action Json := do
  match (← get key).bind Json.asDouble? with
  | none => throw (.failed action ("Counter " ++ key ++ " is not a number"))
  | some x =>
    let next := Json.ofDouble (x + difference)
    put key next
    return next

/-- Counts up. -/
def countIncrement : Handler := fun _ ps ↦ do
  let key ← ofExcept (ps.text "countIncrement" "key")
  let count ← addToCounter "countIncrement" key 1.0
  display (": Incrementing count " ++ key ++ " to " ++ count.text)

/-- Counts down. -/
def countDecrement : Handler := fun _ ps ↦ do
  let key ← ofExcept (ps.text "countDecrement" "key")
  let count ← addToCounter "countDecrement" key (-1.0)
  display (": Decrementing count " ++ key ++ " to " ++ count.text)

end WebRecipe.Action
