import WebRecipe.Action.Basic
import WebRecipe.Registry
import WebRecipe.Schema.Actions

/-!
# Performing actions

An action is first resolved: it is announced, the placeholders in its parameters are replaced, the
parameters are checked, and its handler is looked up. Only then does it do anything. It keeps the page
that is active at this moment.

Actions perform further actions up to a depth, and loops look at their condition up to a number of
times; what goes beyond is given up.
-/

namespace WebRecipe

/-- What performs actions. -/
structure Engine where
  settings : Settings := {}
  registry : Registry Handler
  /-- How deep actions may be nested. -/
  depth : Nat := 10000
  /-- How often a condition is looked at before a loop is given up. -/
  patience : Nat := 10000000

/-- An action that is ready to start: its handler, its parameters and its page. -/
structure Prepared where
  handler : Handler
  params : Members
  page : Option PageId

namespace Engine

/-- Announces an action, resolves its parameters and looks up its handler. The parameters are put into
the store as they are given, after the replacement of placeholders and after the check. -/
def prepare (e : Engine) (call : ActionCall) : Action Prepared := do
  Action.display ("Running action : " ++ call.name)
  Action.put Key.params (.obj call.paramsOrEmpty)
  let resolved : Members ← Action.access (.resolve call.paramsOrEmpty)
  Action.put Key.params (.obj resolved)
  let params ← Action.ofExcept (Schema.validate call.name resolved)
  Action.put Key.params (.obj params)
  match e.registry.get? call.name with
  | none => throw (.unknownAction call.name)
  | some handler => return ⟨handler, params, ← Action.access .activePage⟩

/-- Runs the handler of an action that is ready; further actions are performed as given. -/
def dispatch (e : Engine) (perform : ActionCall → Action Unit) (p : Prepared) : Action Unit :=
  p.handler ⟨e.settings, p.page, perform, e.patience⟩ p.params

/-- Performs an action, with further actions nested up to a depth. -/
def performWithin (e : Engine) : Nat → ActionCall → Action Unit
  | 0, _ => Action.unfinished
  | depth + 1, call => do
    let prepared ← e.prepare call
    e.dispatch (e.performWithin depth) prepared

/-- Performs an action. -/
def perform (e : Engine) (call : ActionCall) : Action Unit :=
  e.performWithin (e.depth + 1) call

/-- Starts an action that was prepared. -/
def start (e : Engine) (p : Prepared) : Action Unit :=
  e.dispatch (e.performWithin e.depth) p

/-- Performs an action with parameters. -/
def invoke (e : Engine) (name : String) (params : Members) : Action Unit :=
  e.perform ⟨name, some params, true⟩

end Engine
end WebRecipe
