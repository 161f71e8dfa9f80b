import WebRecipe.Engine
import WebRecipe.World

/-!
# Machines

A run in progress: the world, the main sequence, and the deferred actions that were started beside it.
Whoever has the turn takes a single step; who has it when is not decided here, so that whatever holds
of all sequences of turns holds of every way in which the actions may be interleaved.

Whoever sleeps is woken by a turn, and the clock moves on to the time of waking. The failure of the
main sequence ends the run at once, and what was started beside it is dropped. Otherwise the run ends
when everything started has ended.
-/

namespace WebRecipe

/-! ### Stages of a run

The main sequence of a run, taken apart. For each recipe there is a stage that begins it, and then one
for each action: an awaited action is performed, and one that is not awaited is only prepared, which
yields the action that is to be started beside the main sequence. -/

/-- A part of the main sequence of a run; it may yield an action to be started beside it. -/
abbrev Stage := Action (Option (Action Unit))

namespace Engine

/-- Begins a recipe. -/
def beginning (e : Engine) (r : Recipe) : Stage := do
  Action.access (.setIndent 0)
  Action.display ("Grabbing " ++ r.name)
  e.invoke "setBaseDir" [("dir", .str r.name)]
  e.invoke "resetCurrentDir" []
  return none

/-- Performs an action, or prepares it to be started beside the main sequence. -/
def stageOf (e : Engine) (call : ActionCall) : Stage := do
  if call.await then
    e.perform call
    return none
  else
    let prepared ← e.prepare call
    return some (e.start prepared)

/-- The stages of the selected recipes. -/
def stages (e : Engine) (recipes : List Recipe) (selection : Option String) : List Stage :=
  (recipes.filter (fun r ↦ selection.all (· == r.name))).flatMap fun r ↦
    e.beginning r :: r.actions.map e.stageOf

end Engine

/-! ### Machines -/

/-- A deferred action in flight. -/
structure Job where
  routine : Routine (Except ActionError Unit)
  /-- The time at which it is woken, while it sleeps. -/
  wakeAt : Option Nat := none

/-- The main sequence of a run. -/
inductive MainSequence where
  | working (current : Routine (Except ActionError (Option (Action Unit)))) (later : List Stage)
    (wakeAt : Option Nat)
  /-- Everything is performed or started. -/
  | over
  | failed (error : ActionError)

/-- Who takes a step: the main sequence, or a deferred action by number. -/
inductive Turn where
  | main
  | job (number : Nat)
  deriving Repr, DecidableEq

/-- A run in progress. -/
structure Machine (σ : Type) where
  world : World σ
  main : MainSequence
  /-- The deferred actions in flight by number, in the order in which they were started. -/
  jobs : List (Nat × Job) := []
  /-- How many deferred actions were started. -/
  started : Nat := 0
  /-- The failures of deferred actions, in the order in which they ended. -/
  failures : List ActionError := []

namespace Machine

variable {σ : Type}

/-- The main sequence that consists of stages. -/
def mainOf : List Stage → MainSequence
  | [] => .over
  | stage :: later => .working stage later none

/-- A machine at the beginning of a run. -/
def start (w : World σ) (stages : List Stage) : Machine σ :=
  { world := w, main := mainOf stages }

/-- The outcome of a run that has ended. -/
def outcome? (m : Machine σ) : Option (Except ActionError Unit) :=
  match m.main with
  | .failed e => some (.error e)
  | .over =>
    if m.jobs.isEmpty then
      some (if m.failures.isEmpty then .ok () else .error (.deferred m.failures))
    else none
  | .working .. => none

/-- The jobs with one of them replaced. -/
def setJob (number : Nat) (j : Job) (jobs : List (Nat × Job)) : List (Nat × Job) :=
  jobs.map (fun entry ↦ if entry.1 == number then (number, j) else entry)

/-- The jobs without one of them. -/
def dropJob (number : Nat) (jobs : List (Nat × Job)) : List (Nat × Job) :=
  jobs.filter (fun entry ↦ entry.1 != number)

/-- The reply to a command and the world after it; the third part is the time of waking when the
command puts to sleep. -/
def reply (s : Surroundings σ) (w : World σ) : (c : Command) → c.Reply × World σ × Option Nat
  | .sleep ms => ((), w, if ms = 0 then none else some (w.clock + ms))
  | c =>
    let r := w.answer s c
    (r.1, r.2, none)

/-- The world at the time at which someone is woken. -/
def wakened (w : World σ) (time : Nat) : World σ :=
  { w with clock := max w.clock time }

/-- Ends a stage of the main sequence. -/
def endStage (m : Machine σ) (later : List Stage) :
    Except ActionError (Option (Action Unit)) → Machine σ
  | .error e => { m with main := .failed e, jobs := [] }
  | .ok none => { m with main := mainOf later }
  | .ok (some deferred) =>
    { m with
      main := mainOf later
      jobs := m.jobs ++ [(m.started, ⟨deferred, none⟩)]
      started := m.started + 1 }

/-- A step of the main sequence. -/
def stepMain (s : Surroundings σ) (m : Machine σ) : Machine σ :=
  match m.main with
  | .working current later (some time) =>
    { m with main := .working current later none, world := wakened m.world time }
  | .working (.done outcome) later none => m.endStage later outcome
  | .working (.step c next) later none =>
    let r := reply s m.world c
    { m with main := .working (next r.1) later r.2.2, world := r.2.1 }
  | _ => m

/-- A step of a deferred action. -/
def stepJob (s : Surroundings σ) (m : Machine σ) (number : Nat) : Machine σ :=
  match m.jobs.lookup number with
  | none => m
  | some ⟨routine, some time⟩ =>
    { m with jobs := setJob number ⟨routine, none⟩ m.jobs, world := wakened m.world time }
  | some ⟨.done (.ok ()), none⟩ => { m with jobs := dropJob number m.jobs }
  | some ⟨.done (.error e), none⟩ =>
    { m with jobs := dropJob number m.jobs, failures := m.failures ++ [e] }
  | some ⟨.unfinished, none⟩ => m
  | some ⟨.step c next, none⟩ =>
    let r := reply s m.world c
    { m with jobs := setJob number ⟨next r.1, r.2.2⟩ m.jobs, world := r.2.1 }

/-- A step of whoever has the turn. -/
def advance (s : Surroundings σ) (m : Machine σ) : Turn → Machine σ
  | .main => m.stepMain s
  | .job number => m.stepJob s number

/-- The machine after a sequence of turns. -/
def advanceAll (s : Surroundings σ) (m : Machine σ) (turns : List Turn) : Machine σ :=
  turns.foldl (advance s) m

end Machine
end WebRecipe
