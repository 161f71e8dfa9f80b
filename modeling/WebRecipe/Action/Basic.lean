import WebRecipe.Condition.Value
import WebRecipe.Recipe.Basic
import WebRecipe.Routine
import WebRecipe.Settings

/-!
# Actions

An action is a routine that may fail. It runs in a context: the settings, the page that was active
when it was reached, and a way to perform further actions. What it is to do is said by its parameters,
whose placeholders are replaced and which fit its schema. A parameter is read as a text, a truth value,
a number or nested actions, and every value has a text and a truth of its own.
-/

namespace WebRecipe

/-- A routine that may fail. -/
abbrev Action (α : Type) := ExceptT ActionError Routine α

/-- What an action can use besides its parameters. -/
structure Context where
  settings : Settings
  /-- The page that was active when the action was reached. -/
  page : Option PageId
  /-- Performs another action. -/
  perform : ActionCall → Action Unit
  /-- How often a condition is looked at before a loop is given up. -/
  patience : Nat

/-- What an action with a name does. -/
abbrev Handler := Context → Members → Action Unit

namespace Action

variable {α : Type}

/-- The action of one command. -/
def command (c : Command) : Action c.Reply :=
  ExceptT.lift (Routine.command c)

/-- An action that is given up. -/
def unfinished : Action α :=
  ExceptT.mk Routine.unfinished

/-- An outcome that is known. -/
def ofExcept (outcome : Except ActionError α) : Action α :=
  ExceptT.mk (.done outcome)

/-- A reply that may be an error, with the error put in the words of an action. -/
def orFail {ε : Type} (toError : ε → ActionError) (reply : Except ε α) : Action α :=
  ofExcept (reply.mapError toError)

/-! ### The store -/

/-- A single access to the store. -/
def access (a : StoreAccess) : Action a.Reply :=
  command (.store a)

/-- The value under a name. -/
def get (key : String) : Action (Option Json) :=
  access (.get key)

/-- Puts a value under a name. -/
def put (key : String) (value : Json) : Action Unit :=
  access (.put key value)

/-- Hands a value on. -/
def setInput (value : Json) : Action Unit :=
  put Key.input value

/-- The text under a name; any other value does not count. -/
def getText (key : String) : Action (Option String) := do
  return (← get key).bind Json.asStr?

/-- Shows a line of output. -/
def display (text : String) : Action Unit :=
  command (.display text)

/-- Does something one block deeper, and comes back also when it fails. -/
def indented (body : Action α) : Action α := do
  access .indentIn
  let outcome ← ExceptT.lift body.run
  access .indentOut
  ofExcept outcome

/-! ### Files and pages -/

/-- Calls the file system. -/
def tryFile (call : FileCall) : Action (Except FileError call.Reply) :=
  command (.file call)

/-- Calls the file system for an action; the operation is named in the error. -/
def file (action operation : String) (call : FileCall) : Action call.Reply := do
  orFail (.file action operation call.path) (← tryFile call)

/-- Whether a path leads to something. -/
def pathExists (path : String) : Action Bool := do
  match ← tryFile (.pathExists path) with
  | .ok found => return found
  | .error _ => return false

/-- Calls a page; the error is put in the words of an action. -/
def onPage (page : PageId) (call : PageCall) (toError : PageError → ActionError) :
    Action call.Reply := do
  orFail toError (← command (.page page call))

/-- The page error as the failure of an action. -/
def pageFailure (action : String) (e : PageError) : ActionError :=
  .failed action e.message

/-- The page error as the failure to use a selector. -/
def selectorFailure (action selector : String) (e : PageError) : ActionError :=
  .selector action selector (some e.message)

end Action

namespace Context

/-- The page of the context; without one an action that needs it fails. -/
def needPage (cx : Context) (action : String) : Except ActionError PageId :=
  match cx.page with
  | some p => .ok p
  | none => .error (.failed action "No active page")

/-- Performs another action with parameters. -/
def invoke (cx : Context) (name : String) (params : Members) : Action Unit :=
  cx.perform ⟨name, some params, true⟩

/-- Performs actions one after another, up to the first that fails. -/
def runBlock (cx : Context) : List ActionCall → Action Unit
  | [] => return ()
  | call :: rest => do
    cx.perform call
    cx.runBlock rest

end Context

/-! ### Parameters -/

namespace Members

/-- A text that an action cannot do without. -/
def text (action : String) (ps : Members) (key : String) : Except ActionError String :=
  match (ps.get? key).bind Json.asStr? with
  | some s => .ok s
  | none => .error (.failed action ("Missing string parameter '" ++ key ++ "'"))

/-- A text, if it is given. -/
def text? (ps : Members) (key : String) : Option String :=
  (ps.get? key).bind Json.asStr?

/-- A truth value; `fallback` when it is not given. -/
def bool (ps : Members) (key : String) (fallback : Bool) : Bool :=
  ((ps.get? key).bind Json.asBool?).getD fallback

/-- A number, if it is given. -/
def number? (ps : Members) (key : String) : Option Float :=
  (ps.get? key).bind Json.asDouble?

/-- An integer of 64 bits; `fallback` when none is given. -/
def integer (ps : Members) (key : String) (fallback : Int) : Int :=
  ((ps.get? key).bind Json.asInt64?).getD fallback

/-- The actions nested in a parameter; none when it is not given. -/
def body (action : String) (ps : Members) (key : String) : Except ActionError (List ActionCall) :=
  (Decode.list ActionCall.decode ((ps.get? key).getD (.arr []))).mapError fun e ↦
    .invalidParams action ("  - " ++ key ++ ": " ++ e.message)

end Members

namespace Json

/-- The text of a value. -/
def text (v : Json) : String :=
  (Condition.Value.ofJson v).toText

/-- Whether a value counts as true; a missing one does not. -/
def isTruthy : Option Json → Bool
  | some v => (Condition.Value.ofJson v).truthy
  | none => false

end Json
end WebRecipe
