import WebRecipe.Run.Schedule

/-!
# Runs

A run of recipes from beginning to end: a page is opened, the recipes run, and in the end, however they
ended, all pages are closed. A run for a request has a result.
-/

namespace WebRecipe

namespace Engine

variable {σ : Type}

/-- How many steps a run may take before it is given up. -/
def maxSteps : Nat := Nat.pow 2 62

/-- Opens the page that a run starts with. -/
def openFirstPage : Action Unit := do
  let page ← Action.orFail (fun e : PageError ↦ .failed "newPage" e.message)
    (← Action.command .openPage)
  Action.access (.insertPage defaultPageLabel page)
  let _ ← Action.access (.activatePage defaultPageLabel)

/-- Closes pages one after another; a page that cannot be closed is passed over. -/
def closeAll : List (String × PageId) → Routine Unit
  | [] => return ()
  | (_, page) :: rest => do
    let _ ← Routine.command (.closePage page)
    closeAll rest

/-- Reports the failure of a run, closes the pages and says that the run is over. -/
def conclude (payloadId : Option String) (outcome : Except ActionError Unit) : Routine Unit := do
  match outcome with
  | .error e => Routine.command (.report (Output.errorLine payloadId e.message))
  | .ok () => pure ()
  closeAll (← Routine.command (.store .takePages))
  Routine.command (.store (.setIndent 0))
  Routine.command (.display "Grabber finished")

/-- The store of a run. -/
def initialStore (env : Environment) (payloadId : Option String) : Store :=
  match payloadId with
  | some id => (Store.seeded env).put Key.payloadId (.str id)
  | none => Store.seeded env

/-- The result of a run for a request. -/
def resultOf (payloadId : Option String) (s : Store) : Option Json :=
  payloadId.map (fun _ ↦ .obj [("result", s.input.getD .null)])

/-- Runs recipes in a world, whose store is made anew. There is no outcome when the run is given up. -/
def run (e : Engine) (s : Surroundings σ) (w : World σ) (env : Environment) (recipes : List Recipe)
    (selection payloadId : Option String) : Option (Except ActionError (Option Json)) × World σ :=
  let w := { w with store := initialStore env payloadId }
  match openFirstPage.run.run s w with
  | (none, w) => (none, w)
  | (some (.error err), w) => (some (.error err), w)
  | (some (.ok ()), w) =>
    match (Machine.start w (e.stages recipes selection)).runFor s maxSteps {} with
    | (none, m) => (none, m.world)
    | (some outcome, m) =>
      let w := ((conclude payloadId outcome).run s m.world).2
      (some (outcome.map (fun _ ↦ resultOf payloadId w.store)), w)

end Engine
end WebRecipe
