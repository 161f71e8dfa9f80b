import WebRecipe.Proofs.Routine.Alone
import WebRecipe.Proofs.Run.Account
import WebRecipe.Run.Basic

/-!
# Outcomes of runs

A run is told action by action. The items of a run are the beginnings of the selected recipes and
their actions, in the order in which they are written. The main sequence carries them out one after
another: it performs an awaited action, and only prepares one that is not awaited. It stops at the
first item that fails, and this is the failure of the run. Otherwise what was prepared is started,
each once and on its own, and the run ends when all of it has ended; it fails if something of that
failed, and has every such failure once.

All of this holds whoever has the turn when. The turns that a run takes are one of the possible
sequences of turns.

## Main definitions

* `Engine.Item`, `Engine.items`: what the main sequence of a run consists of.
* `Engine.Performs`, `Engine.Passes`, `Engine.Fails`: what performing an action, and an item, comes
  to.
* `Engine.Told`: what a run has come to.
* `Engine.runBy`: a run with given turns.

## Main results

* `Engine.told_advanceAll`: what a machine has come to after any sequence of turns.
* `Engine.run_told`: what a run comes to.
-/

namespace WebRecipe

variable {σ : Type}

namespace Engine

/-! ### Items -/

/-- A part of the main sequence of a run. -/
inductive Item where
  | beginning (r : Recipe)
  | action (call : ActionCall)

/-- The items of the selected recipes, in the order in which they are written. -/
def items (recipes : List Recipe) (selection : Option String) : List Item :=
  (recipes.filter (fun r ↦ selection.all (· == r.name))).flatMap fun r ↦
    .beginning r :: r.actions.map .action

/-- The action that makes the base directory of a recipe. -/
def settingBaseDir (r : Recipe) : ActionCall :=
  ⟨"setBaseDir", some [("dir", .str r.name)], true⟩

/-- The action that goes to the base directory. -/
def resettingCurrentDir : ActionCall :=
  ⟨"resetCurrentDir", some [], true⟩

/-- What is done before the first action of a recipe. -/
def heading (r : Recipe) : Log :=
  [⟨.store (.setIndent 0), ()⟩, ⟨.display ("Grabbing " ++ r.name), ()⟩]

variable (e : Engine)

/-- Performing an action comes to an outcome: it is not prepared, or is prepared and its handler
comes to the outcome. -/
inductive Performs (call : ActionCall) : Log → Except ActionError Unit → Prop
  | unprepared {l : Log} {err : ActionError} (fails : (e.prepare call).run.Ends l (.error err)) :
      Performs call l (.error err)
  | handled {l l' : Log} {p : Prepared} {o : Except ActionError Unit}
      (prepared : (e.prepare call).run.Ends l (.ok p)) (ends : (e.start p).run.Ends l' o) :
      Performs call (l ++ l') o

/-- An item is passed: a recipe is begun, an awaited action is performed, and any other action is
prepared, which leaves what is to be started. -/
inductive Passes : Item → Log → Option Prepared → Prop
  | beginning {r : Recipe} {l l' : Log} (base : e.Performs (settingBaseDir r) l (.ok ()))
      (current : e.Performs resettingCurrentDir l' (.ok ())) :
      Passes (.beginning r) (heading r ++ (l ++ l')) none
  | awaited {call : ActionCall} {l : Log} (await : call.await = true)
      (performed : e.Performs call l (.ok ())) : Passes (.action call) l none
  | deferred {call : ActionCall} {l : Log} {p : Prepared} (await : call.await = false)
      (prepared : (e.prepare call).run.Ends l (.ok p)) : Passes (.action call) l (some p)

/-- An item fails. -/
inductive Fails : Item → Log → ActionError → Prop
  | baseDir {r : Recipe} {l : Log} {err : ActionError}
      (fails : e.Performs (settingBaseDir r) l (.error err)) :
      Fails (.beginning r) (heading r ++ l) err
  | currentDir {r : Recipe} {l l' : Log} {err : ActionError}
      (base : e.Performs (settingBaseDir r) l (.ok ()))
      (fails : e.Performs resettingCurrentDir l' (.error err)) :
      Fails (.beginning r) (heading r ++ (l ++ l')) err
  | awaited {call : ActionCall} {l : Log} {err : ActionError} (await : call.await = true)
      (fails : e.Performs call l (.error err)) : Fails (.action call) l err
  | deferred {call : ActionCall} {l : Log} {err : ActionError} (await : call.await = false)
      (fails : (e.prepare call).run.Ends l (.error err)) : Fails (.action call) l err

/-- The stage of an item. -/
def Item.stage : Item → Stage
  | beginning r => e.beginning r
  | action call => e.stageOf call

theorem stages_eq (recipes : List Recipe) (selection : Option String) :
    e.stages recipes selection = (items recipes selection).map (Item.stage e) := by
  rw [stages, items, List.map_flatMap]
  congr 1
  funext r
  rw [List.map_cons, List.map_map]
  rfl

variable {e} {log : Log} {call : ActionCall}

theorem performs_of_ends {o : Except ActionError Unit} (h : (e.perform call).run.Ends log o) :
    e.Performs call log o := by
  rw [perform, performWithin] at h
  cases o with
  | ok a =>
    obtain ⟨p, l, l', rfl, hp, hends⟩ := Routine.ends_bind_ok.1 h
    exact .handled hp hends
  | error err =>
    rcases Routine.ends_bind_error.1 h with h | ⟨p, l, l', rfl, hp, hends⟩
    · exact .unprepared h
    · exact .handled hp hends

private theorem passes_of_stageOf {deferred : Option (Action Unit)}
    (h : (e.stageOf call).run.Ends log (.ok deferred)) :
    ∃ p, e.Passes (.action call) log p ∧ deferred = p.map e.start := by
  rw [stageOf] at h
  split at h
  case isTrue hawait =>
    obtain ⟨_, l, l', rfl, hperform, hpure⟩ := Routine.ends_bind_ok.1 h
    obtain ⟨rfl, hnone⟩ := Routine.ends_done.1 hpure
    cases hnone
    rw [List.append_nil]
    exact ⟨none, .awaited hawait (performs_of_ends hperform), rfl⟩
  case isFalse hawait =>
    obtain ⟨p, l, l', rfl, hprepare, hpure⟩ := Routine.ends_bind_ok.1 h
    obtain ⟨rfl, hsome⟩ := Routine.ends_done.1 hpure
    cases hsome
    rw [List.append_nil]
    exact ⟨some p, .deferred (Bool.eq_false_iff.2 hawait) hprepare, rfl⟩

private theorem fails_of_stageOf {err : ActionError}
    (h : (e.stageOf call).run.Ends log (.error err)) : e.Fails (.action call) log err := by
  rw [stageOf] at h
  split at h
  case isTrue hawait =>
    rcases Routine.ends_bind_error.1 h with hperform | ⟨_, _, _, _, _, hpure⟩
    · exact .awaited hawait (performs_of_ends hperform)
    · cases (Routine.ends_done.1 hpure).2
  case isFalse hawait =>
    rcases Routine.ends_bind_error.1 h with hprepare | ⟨_, _, _, _, _, hpure⟩
    · exact .deferred (Bool.eq_false_iff.2 hawait) hprepare
    · cases (Routine.ends_done.1 hpure).2

private theorem ends_beginning {r : Recipe} {o : Except ActionError (Option (Action Unit))}
    (h : (e.beginning r).run.Ends log o) :
    ∃ l, log = heading r ++ l ∧
      (do e.perform (settingBaseDir r); e.perform resettingCurrentDir; return none :
        Stage).run.Ends l o := by
  obtain ⟨_, l, rfl, hdisplay⟩ := Routine.ends_command_bind.1 h
  obtain ⟨_, l', rfl, hrest⟩ := Routine.ends_command_bind.1 hdisplay
  exact ⟨l', rfl, hrest⟩

private theorem passes_of_beginning {r : Recipe} {deferred : Option (Action Unit)}
    (h : (e.beginning r).run.Ends log (.ok deferred)) :
    e.Passes (.beginning r) log none ∧ deferred = none := by
  obtain ⟨l, rfl, hactions⟩ := ends_beginning h
  obtain ⟨_, l, l', rfl, hbase, hrest⟩ := Routine.ends_bind_ok.1 hactions
  obtain ⟨_, l', l'', rfl, hcurrent, hpure⟩ := Routine.ends_bind_ok.1 hrest
  obtain ⟨rfl, hnone⟩ := Routine.ends_done.1 hpure
  cases hnone
  rw [List.append_nil]
  exact ⟨.beginning (performs_of_ends hbase) (performs_of_ends hcurrent), rfl⟩

private theorem fails_of_beginning {r : Recipe} {err : ActionError}
    (h : (e.beginning r).run.Ends log (.error err)) : e.Fails (.beginning r) log err := by
  obtain ⟨l, rfl, hactions⟩ := ends_beginning h
  rcases Routine.ends_bind_error.1 hactions with hbase | ⟨_, l, l', rfl, hbase, hrest⟩
  · exact .baseDir (performs_of_ends hbase)
  · rcases Routine.ends_bind_error.1 hrest with hcurrent | ⟨_, _, _, _, _, hpure⟩
    · exact .currentDir (performs_of_ends hbase) (performs_of_ends hcurrent)
    · cases (Routine.ends_done.1 hpure).2

/-- A stage passes when its item does, and leaves what was prepared to be started. -/
theorem Item.passes_of_ends {item : Item} {deferred : Option (Action Unit)}
    (h : (item.stage e).run.Ends log (.ok deferred)) :
    ∃ p, e.Passes item log p ∧ deferred = p.map e.start := by
  cases item with
  | beginning r => exact ⟨none, passes_of_beginning h⟩
  | action call => exact passes_of_stageOf h

/-- A stage fails when its item does. -/
theorem Item.fails_of_ends {item : Item} {err : ActionError}
    (h : (item.stage e).run.Ends log (.error err)) : e.Fails item log err := by
  cases item with
  | beginning r => exact fails_of_beginning h
  | action call => exact fails_of_stageOf h

/-- Stages are passed when their items are. -/
theorem passes_of_passed {is : List Item} {started : List (Action Unit)}
    (h : Machine.Passed (is.map (Item.stage e)) log started) :
    ∃ deferred, InOrder e.Passes is log deferred ∧ started = deferred.map e.start := by
  induction is generalizing log started with
  | nil =>
    cases h
    exact ⟨[], .nil, rfl⟩
  | cons item is ih =>
    cases h with
    | cons hitem hrest =>
      obtain ⟨p, hpasses, rfl⟩ := Item.passes_of_ends hitem
      obtain ⟨deferred, hinOrder, rfl⟩ := ih hrest
      refine ⟨p.toList ++ deferred, .cons hpasses hinOrder, ?_⟩
      cases p <;> rfl

/-! ### What a run has come to -/

variable (e) in
/-- What a run with some items has come to, by what was done for the main sequence and for those
beside it: its outcome, if it is over. -/
inductive Told (is : List Item) (log : Turn → Log) : Option (Except ActionError Unit) → Prop
  /-- An item failed, and the items after it are left out. -/
  | failed {before later : List Item} {item : Item} {l l' : Log} {deferred : List Prepared}
      {err : ActionError} (split : is = before ++ item :: later) (all : log .main = l ++ l')
      (passed : InOrder e.Passes before l deferred) (fails : e.Fails item l' err)
      (begun : Machine.Begun (deferred.map e.start) fun n ↦ log (.job n)) :
      Told is log (some (.error err))
  /-- All items were passed, and whatever was started has ended. -/
  | ended {deferred : List Prepared} {outcomes : List (Nat × Except ActionError Unit)}
      (passed : InOrder e.Passes is (log .main) deferred)
      (crew : Machine.Crew (deferred.map e.start) (fun n ↦ log (.job n)) [] outcomes) :
      Told is log (some (if (Machine.failuresOf outcomes).isEmpty then .ok ()
        else .error (.deferred (Machine.failuresOf outcomes))))
  /-- The main sequence is at an item. -/
  | underway {before later : List Item} {item : Item} {l l' : Log} {deferred : List Prepared}
      {current : Routine (Except ActionError (Option (Action Unit)))}
      (split : is = before ++ item :: later) (all : log .main = l ++ l')
      (passed : InOrder e.Passes before l deferred) (goes : (item.stage e).run.Goes l' current)
      (begun : Machine.Begun (deferred.map e.start) fun n ↦ log (.job n)) : Told is log none
  /-- All items were passed, and something that was started has not ended. -/
  | joining {deferred : List Prepared} (passed : InOrder e.Passes is (log .main) deferred)
      (begun : Machine.Begun (deferred.map e.start) fun n ↦ log (.job n)) : Told is log none

/-- What has come of the stages has come of the items. -/
theorem split_of_map {is : List Item} {before later : List Stage} {stage : Stage} {l : Log}
    {started : List (Action Unit)} (hsplit : is.map (Item.stage e) = before ++ stage :: later)
    (hpassed : Machine.Passed before l started) :
    ∃ before' item later' deferred, is = before' ++ item :: later' ∧ item.stage e = stage ∧
      InOrder e.Passes before' l deferred ∧ started = deferred.map e.start := by
  obtain ⟨before', rest, rfl, rfl, hrest⟩ := List.map_eq_append_iff.1 hsplit
  obtain ⟨item, later', rfl, hstage, -⟩ := List.map_eq_cons_iff.1 hrest
  obtain ⟨deferred, hinOrder, hstarted⟩ := passes_of_passed hpassed
  exact ⟨before', item, later', deferred, rfl, hstage, hinOrder, hstarted⟩

/-- What a machine has come to is told by the items of its run. -/
theorem told_of_account {is : List Item} {log : Turn → Log} {m : Machine σ}
    (h : Machine.Account (is.map (Item.stage e)) (log .main) (fun n ↦ log (.job n)) m) :
    e.Told is log m.outcome? := by
  cases h with
  | failed hmain course begun =>
    cases course with
    | failed split all passed fails =>
      obtain ⟨before, item, later, deferred, rfl, rfl, hpassed, rfl⟩ := split_of_map split passed
      rw [Machine.outcome?, hmain]
      exact .failed rfl all hpassed (Item.fails_of_ends fails) begun
  | @going _ ended hmain course crew _ failures =>
    rw [Machine.outcome?]
    split
    case h_1 err hfailed => exact absurd hfailed (hmain err)
    case h_2 hover =>
      rw [hover] at course
      cases course with
      | ended passed =>
        obtain ⟨deferred, hpassed, rfl⟩ := passes_of_passed passed
        split
        case isTrue hjobs =>
          rw [List.isEmpty_iff.1 hjobs] at crew
          rw [failures]
          exact .ended hpassed crew
        case isFalse => exact .joining hpassed crew.begun
    case h_3 current stages wakeAt hworking =>
      rw [hworking] at course
      cases course with
      | working split all passed goes =>
        obtain ⟨before, item, later, deferred, rfl, rfl, hpassed, rfl⟩ := split_of_map split passed
        exact .underway rfl all hpassed goes crew.begun

/-! ### Runs with given turns -/

/-- As long as a run is not over, somebody has something to do. -/
theorem exists_next_of_outcome?_eq_none {m : Machine σ} (h : m.outcome? = none) :
    ∃ who, m.next who ≠ .absent := by
  have hnextOf {α : Type} (r : Routine α) : Machine.nextOf r ≠ .absent := by
    cases r <;> exact nofun
  rw [Machine.outcome?] at h
  split at h
  case h_1 => cases h
  case h_2 =>
    split at h
    case isTrue => cases h
    case isFalse hjobs =>
      match hm : m.jobs with
      | [] => rw [hm] at hjobs; exact absurd rfl hjobs
      | (n, j) :: rest =>
        refine ⟨.job n, ?_⟩
        rw [Machine.next, hm, List.lookup_cons, beq_self_eq_true]
        exact hnextOf _
  case h_3 hworking =>
    refine ⟨.main, ?_⟩
    rw [Machine.next, hworking]
    exact hnextOf _

/-- A run with given turns: whoever has the turn takes a step. There is no outcome when the turns
are not enough. -/
def runBy (e : Engine) (s : Surroundings σ) (w : World σ) (env : Environment)
    (recipes : List Recipe) (selection payloadId : Option String) (turns : List Turn) :
    Option (Except ActionError (Option Json)) × World σ :=
  match openFirstPage.run.run s { w with store := initialStore env payloadId } with
  | (none, w) => (none, w)
  | (some (.error err), w) => (some (.error err), w)
  | (some (.ok ()), w) =>
    let m := (Machine.start w (e.stages recipes selection)).advanceAll s turns
    match m.outcome? with
    | none => (none, m.world)
    | some outcome =>
      let w := ((conclude payloadId outcome).run s m.world).2
      (some (outcome.map (fun _ ↦ resultOf payloadId w.store)), w)

/-- What a run with given turns has come to: no page could be opened, and nothing was done; or a
page was opened, and the outcome is as the items of the run tell it. A run that succeeds for a
request has the value that was handed on last as its result. -/
inductive RunTold (e : Engine) (s : Surroundings σ) (w : World σ) (env : Environment)
    (recipes : List Recipe) (selection payloadId : Option String) (turns : List Turn) :
    Option (Except ActionError (Option Json)) × World σ → Prop
  | noPage {message : String} {w' : World σ}
      (opening : openFirstPage.run.run s { w with store := initialStore env payloadId } =
        (some (.error (.failed "newPage" message)), w')) :
      RunTold e s w env recipes selection payloadId turns
        (some (.error (.failed "newPage" message)), w')
  | opened {w₁ w' : World σ} {outcome : Option (Except ActionError Unit)}
      (opening : openFirstPage.run.run s { w with store := initialStore env payloadId } =
        (some (.ok ()), w₁))
      (told : e.Told (items recipes selection)
        (Machine.logOf s (Machine.start w₁ (e.stages recipes selection)) turns) outcome)
      (goesOn : outcome = none → ∃ who,
        ((Machine.start w₁ (e.stages recipes selection)).advanceAll s turns).next who ≠ .absent) :
      RunTold e s w env recipes selection payloadId turns
        (outcome.map (Except.map fun _ ↦
          payloadId.map fun _ ↦ .obj [("result", (w'.store.get? Key.input).getD .null)]), w')

/-- A machine that was started is told by its items, whatever turns are taken. -/
theorem told_advanceAll (e : Engine) (s : Surroundings σ) (w : World σ) (recipes : List Recipe)
    (selection : Option String) (turns : List Turn) :
    e.Told (items recipes selection)
      (Machine.logOf s (Machine.start w (e.stages recipes selection)) turns)
      ((Machine.start w (e.stages recipes selection)).advanceAll s turns).outcome? := by
  rw [stages_eq]
  exact told_of_account (Machine.account s w _ turns)

/-- The page of a run is opened, or it is not and the run fails for this reason. -/
theorem run_openFirstPage (s : Surroundings σ) (w : World σ) :
    (∃ message w', openFirstPage.run.run s w = (some (.error (.failed "newPage" message)), w')) ∨
      ∃ w', openFirstPage.run.run s w = (some (.ok ()), w') := by
  rw [openFirstPage, Action.run_command_bind]
  cases (w.answer s .openPage).1 with
  | error e => exact .inl ⟨e.message, _, rfl⟩
  | ok page => exact .inr ⟨_, rfl⟩

/-- A run with given turns comes to what its items tell. -/
theorem runTold_runBy (e : Engine) (s : Surroundings σ) (w : World σ) (env : Environment)
    (recipes : List Recipe) (selection payloadId : Option String) (turns : List Turn) :
    e.RunTold s w env recipes selection payloadId turns
      (e.runBy s w env recipes selection payloadId turns) := by
  rw [runBy]
  rcases run_openFirstPage s { w with store := initialStore env payloadId } with
    ⟨message, w', hopen⟩ | ⟨w', hopen⟩
  · rw [hopen]
    exact .noPage hopen
  · rw [hopen]
    have htold := e.told_advanceAll s w' recipes selection turns
    dsimp only
    cases houtcome : ((Machine.start w' (e.stages recipes selection)).advanceAll s turns).outcome?
      with
    | none =>
      rw [houtcome] at htold
      exact .opened hopen htold fun _ ↦ exists_next_of_outcome?_eq_none houtcome
    | some outcome =>
      rw [houtcome] at htold
      exact .opened hopen htold nofun

/-! ### Schedules -/

end Engine

namespace Machine

/-- Whoever is at the head of the line, the machine has only taken turns. -/
private theorem stepHead_eq {s : Surroundings σ} {m m' : Machine σ} {l l' : Line} {who : Turn}
    {rest : List Turn} (h : m.stepHead s l who rest = some (m', l')) :
    ∃ turns, m' = m.advanceAll s turns := by
  rw [stepHead] at h
  split at h
  · cases h
    exact ⟨[], rfl⟩
  · cases h
  · cases h
    exact ⟨[who], rfl⟩
  · dsimp only at h
    split at h
    · cases h
      exact ⟨[who], rfl⟩
    · split at h
      · split at h <;>
        · cases h
          exact ⟨[who], rfl⟩
      · cases h
        exact ⟨[who], rfl⟩

/-- A schedule only says whose turn it is: a run that ends has taken some sequence of turns. -/
theorem exists_turns_of_runFor {s : Surroundings σ} {steps : Nat} {m m' : Machine σ} {l : Line}
    {outcome : Except ActionError Unit} (h : m.runFor s steps l = (some outcome, m')) :
    ∃ turns, m' = m.advanceAll s turns ∧ m'.outcome? = some outcome := by
  induction steps generalizing m l with
  | zero => cases h
  | succ steps ih =>
    have hlater {m₁ : Machine σ} {l₁ : Line} (hfirst : ∃ turns, m₁ = m.advanceAll s turns)
        (h₁ : m₁.runFor s steps l₁ = (some outcome, m')) :
        ∃ turns, m' = m.advanceAll s turns ∧ m'.outcome? = some outcome := by
      obtain ⟨first, rfl⟩ := hfirst
      obtain ⟨turns, rfl, houtcome⟩ := ih h₁
      exact ⟨first ++ turns, List.foldl_append.symm, houtcome⟩
    rw [runFor] at h
    split at h
    case h_1 houtcome =>
      cases h
      exact ⟨[], rfl, houtcome⟩
    case h_2 =>
      split at h
      · split at h
        case h_1 hstep => exact hlater (stepHead_eq hstep) h
        case h_2 => cases h
      · split at h
        · split at h
          · cases h
          · exact hlater ⟨_, rfl⟩ h
        · exact hlater ⟨[], rfl⟩ h

end Machine

namespace Engine

/-- The turns that a run takes are a sequence of turns, unless it is given up. -/
theorem run_eq_runBy (e : Engine) (s : Surroundings σ) (w : World σ) (env : Environment)
    (recipes : List Recipe) (selection payloadId : Option String) :
    (e.run s w env recipes selection payloadId).1 = none ∨
      ∃ turns, e.run s w env recipes selection payloadId =
        e.runBy s w env recipes selection payloadId turns := by
  simp only [run, runBy]
  rcases run_openFirstPage s { w with store := initialStore env payloadId } with
    ⟨message, w', hopen⟩ | ⟨w', hopen⟩
  · rw [hopen]
    exact .inr ⟨[], rfl⟩
  · rw [hopen]
    dsimp only
    cases hrun : (Machine.start w' (e.stages recipes selection)).runFor s maxSteps {} with
    | mk outcome m =>
      cases outcome with
      | none => exact .inl rfl
      | some outcome =>
        obtain ⟨turns, rfl, houtcome⟩ := Machine.exists_turns_of_runFor hrun
        refine .inr ⟨turns, ?_⟩
        rw [houtcome]

end Engine
end WebRecipe
