import WebRecipe.Proofs.Reach
import WebRecipe.Proofs.Run.Outcome

/-!
# Failures of runs

A run fails as one of its items does, or with the failures of what it started and did not wait for,
or because no page could be opened. If the actions of its items, and all that they reach, fail as
allowed, then so do the run and everything that it starts, whoever has the turn when.

## Main definitions

* `ActionError.Reports`: an error is another one, or collects it.
* `Engine.Item.calls`: the actions of an item.
* `Engine.AdmitsRun`: the actions of a run, and all that they reach, fail as allowed.
* `Engine.RunFails`: how a run of such actions fails.

## Main results

* `Engine.AdmitsRun.runFails_of_runBy`, `Engine.AdmitsRun.runFails_of_run`: how a run fails.
* `Engine.AdmitsRun.fails_of_mem_jobs`: how whatever a run starts fails.
* `Engine.AdmitsRun.not_reports`: what no run reports, as none of its actions does.
-/

namespace WebRecipe

/-! ### Errors in errors -/

/-- An error reports another one: it is the other one, or collects an error that reports it. -/
inductive ActionError.Reports (cause : ActionError) : ActionError → Prop
  | self : Reports cause cause
  | deferred {errors : List ActionError} {err : ActionError} (mem : err ∈ errors)
      (reports : Reports cause err) : Reports cause (.deferred errors)

/-- An error in an action's own words reports nothing else. -/
theorem ActionError.IsOwn.eq_of_reports {err cause : ActionError} (h : err.IsOwn)
    (hreports : cause.Reports err) : cause = err := by
  cases hreports with
  | self => rfl
  | deferred => exact h.elim

/-- What was left in a row was left by one of those in the row. -/
theorem InOrder.exists_of_mem {ι κ : Type} {R : ι → Log → Option κ → Prop} {is : List ι} {l : Log}
    {left : List κ} (h : InOrder R is l left) {k : κ} (hk : k ∈ left) :
    ∃ i l', i ∈ is ∧ l' ⊆ l ∧ R i l' (some k) := by
  induction h with
  | nil => cases hk
  | @cons i is l₁ l₂ o left hi _ ih =>
    rcases List.mem_append.1 hk with hk | hk
    · rw [Option.mem_toList.1 hk] at hi
      exact ⟨i, l₁, List.mem_cons_self, List.subset_append_left l₁ l₂, hi⟩
    · obtain ⟨i', l', hi', hl', hR⟩ := ih hk
      have hlog : l' ⊆ l₁ ++ l₂ := fun _ hd ↦ List.mem_append_right l₁ (hl' hd)
      exact ⟨i', l', List.mem_cons_of_mem i hi', hlog, hR⟩

namespace Engine

variable {σ : Type} {e : Engine} {s : Surroundings σ} {fails : ActionError → Prop}
  {recipes : List Recipe} {selection : Option String}

/-! ### Failures of items -/

/-- An item is the beginning of a recipe, or one of its actions. -/
theorem exists_of_mem_items {item : Item} (h : item ∈ items recipes selection) :
    ∃ r ∈ recipes, item = .beginning r ∨ ∃ call ∈ r.actions, item = .action call := by
  obtain ⟨r, hr, hitem⟩ := List.mem_flatMap.1 h
  refine ⟨r, (List.mem_filter.1 hr).1, ?_⟩
  rcases List.mem_cons.1 hitem with rfl | hitem
  · exact .inl rfl
  · obtain ⟨call, hcall, rfl⟩ := List.mem_map.1 hitem
    exact .inr ⟨call, hcall, rfl⟩

/-- The actions of an item. -/
def Item.calls : Item → List ActionCall
  | beginning r => [settingBaseDir r, resettingCurrentDir]
  | action call => [call]

/-- The actions of a run, and all that they reach, fail as allowed. -/
structure AdmitsRun (e : Engine) (s : Surroundings σ) (fails : ActionError → Prop)
    (recipes : List Recipe) (selection : Option String) : Prop where
  builtin : e.registry = Action.builtinRegistry
  own : ∀ err : ActionError, err.IsOwn → fails err
  opening : ∀ w : World σ, e.AdmitsAll fails (openingPage (w.answer s .freshId).1)
  calls : ∀ item ∈ items recipes selection, ∀ call ∈ item.calls, e.AdmitsAll fails call

namespace AdmitsRun

variable (h : e.AdmitsRun s fails recipes selection)

include h

/-- An action that was prepared may start with its parameters, under the handler of its name. -/
private theorem prepared {call : ActionCall} (hcall : e.AdmitsAll fails call) {l : Log}
    (hlog : ∀ d ∈ l, d.AnsweredIn s) {p : Prepared} (hends : (e.prepare call).run.Ends l (.ok p)) :
    Action.Within s (fun _ ↦ True) fails (e.start p) (fun _ ↦ True) := by
  obtain ⟨hstarts, hhandler⟩ :=
    ((prepare_within (hcall call .self)).routine.ends hends hlog).1 p rfl
  exact start_within h.builtin h.own h.opening hcall hstarts hhandler

private theorem performs {call : ActionCall} (hcall : e.AdmitsAll fails call) {l : Log}
    (hlog : ∀ d ∈ l, d.AnsweredIn s) {err : ActionError}
    (hperforms : e.Performs call l (.error err)) : fails err := by
  cases hperforms with
  | unprepared hends =>
    exact ((prepare_within (s := s) (hcall call .self)).routine.ends hends hlog).2 err rfl
  | handled hprepared hends =>
    obtain ⟨hlog₁, hlog₂⟩ := List.forall_mem_append.1 hlog
    exact ((h.prepared hcall hlog₁ hprepared).routine.ends hends hlog₂).2 err rfl

/-- An item fails as its actions do. -/
private theorem item {item : Item} (hitem : item ∈ items recipes selection) {l : Log}
    (hlog : ∀ d ∈ l, d.AnsweredIn s) {err : ActionError} (hfails : e.Fails item l err) :
    fails err := by
  have hcalls := h.calls item hitem
  cases hfails with
  | baseDir hperforms =>
    exact h.performs (hcalls _ List.mem_cons_self) (List.forall_mem_append.1 hlog).2 hperforms
  | currentDir _ hperforms =>
    have hlater := (List.forall_mem_append.1 (List.forall_mem_append.1 hlog).2).2
    exact h.performs (hcalls _ (List.mem_cons_of_mem _ List.mem_cons_self)) hlater hperforms
  | awaited _ hperforms => exact h.performs (hcalls _ List.mem_cons_self) hlog hperforms
  | deferred _ hends =>
    have hcall := hcalls _ List.mem_cons_self
    exact ((prepare_within (s := s) (hcall _ .self)).routine.ends hends hlog).2 err rfl

/-- What was left to be started fails as it may. -/
private theorem started {is : List Item} (his : is ⊆ items recipes selection) {l : Log}
    (hlog : ∀ d ∈ l, d.AnsweredIn s) {deferred : List Prepared}
    (hpassed : InOrder e.Passes is l deferred) {n : Nat} {a : Action Unit}
    (ha : (deferred.map e.start)[n]? = some a) :
    Action.Within s (fun _ ↦ True) fails a (fun _ ↦ True) := by
  rw [List.getElem?_map] at ha
  obtain ⟨p, hp, rfl⟩ := Option.map_eq_some_iff.1 ha
  obtain ⟨item, l', hitem, hl', hpasses⟩ := hpassed.exists_of_mem (List.mem_of_getElem? hp)
  cases hpasses with
  | deferred _ hprepared =>
    exact h.prepared (h.calls _ (his hitem) _ List.mem_cons_self) (fun d hd ↦ hlog d (hl' hd))
      hprepared

end AdmitsRun

/-! ### Failures of runs -/

/-- A run fails with one failure as allowed, or with a collection of them. -/
inductive RunFails (fails : ActionError → Prop) : ActionError → Prop
  | single {err : ActionError} (h : fails err) : RunFails fails err
  | deferred {errors : List ActionError} (h : ∀ err ∈ errors, fails err) :
      RunFails fails (.deferred errors)

/-- What none of the failures reports is not reported by a collection of them. -/
theorem RunFails.not_reports {err cause : ActionError}
    (h : RunFails (fun err ↦ ¬ cause.Reports err) err)
    (hcause : ∀ errors, cause ≠ .deferred errors) : ¬ cause.Reports err := by
  cases h with
  | single herr => exact herr
  | deferred herrors =>
    generalize hdeferred : ActionError.deferred _ = err
    rintro (_ | ⟨hmem, hreports⟩)
    · exact hcause _ hdeferred.symm
    · cases hdeferred
      exact herrors _ hmem hreports

namespace AdmitsRun

variable (h : e.AdmitsRun s fails recipes selection)

include h

/-- A run that has come to a failure fails as its items do, or as what it has started. -/
private theorem told {log : Turn → Log} (hlog : ∀ who, ∀ d ∈ log who, d.AnsweredIn s)
    {err : ActionError} (htold : e.Told (items recipes selection) log (some (.error err))) :
    RunFails fails err := by
  generalize hresult : (some (.error err) : Option (Except ActionError Unit)) = result at htold
  cases htold with
  | failed split all _ hfails _ =>
    cases hresult
    refine .single (h.item ?_ (fun d hd ↦ hlog .main d ?_) hfails)
    · rw [split]
      exact List.mem_append_right _ List.mem_cons_self
    · rw [all]
      exact List.mem_append_right _ hd
  | ended passed crew =>
    split at hresult
    case isTrue => cases hresult
    case isFalse =>
      cases hresult
      refine .deferred fun err herr ↦ ?_
      obtain ⟨⟨n, o⟩, hmem, hfailure⟩ := List.mem_filterMap.1 herr
      obtain ⟨a, ha, hends⟩ := crew.ends n o hmem
      cases o with
      | ok => cases hfailure
      | error err' =>
        cases hfailure
        exact ((h.started (List.Subset.refl _) (hlog .main) passed ha).routine.ends hends
          (hlog (.job n))).2 err rfl
  | underway => cases hresult
  | joining => cases hresult

/-- A run with given turns fails as its actions may. -/
theorem runFails_of_runBy {w : World σ} {env : Environment} {payloadId : Option String}
    {turns : List Turn} {err : ActionError}
    (hrun : (e.runBy s w env recipes selection payloadId turns).1 = some (.error err)) :
    RunFails fails err := by
  have htold := e.runTold_runBy s w env recipes selection payloadId turns
  generalize e.runBy s w env recipes selection payloadId turns = run at *
  cases htold with
  | noPage =>
    cases hrun
    exact .single (h.own _ trivial)
  | @opened w₁ _ outcome _ told _ =>
    match outcome with
    | none => cases hrun
    | some (.ok _) => cases hrun
    | some (.error err') =>
      cases hrun
      exact h.told (fun _ _ ↦ Machine.answeredIn_of_mem_logOf) told

/-- A run fails as its actions may. -/
theorem runFails_of_run {w : World σ} {env : Environment} {payloadId : Option String}
    {err : ActionError}
    (hrun : (e.run s w env recipes selection payloadId).1 = some (.error err)) :
    RunFails fails err := by
  rcases e.run_eq_runBy s w env recipes selection payloadId with hnone | ⟨turns, heq⟩
  · rw [hnone] at hrun
    cases hrun
  · rw [heq] at hrun
    exact h.runFails_of_runBy hrun

omit h in
/-- Whatever was started was left by some of the items. -/
private theorem exists_passes {is : List Item} {log : Log} {main : MainSequence}
    {started : List (Action Unit)}
    (hcourse : Machine.Course (is.map (Item.stage e)) log main started) :
    ∃ before l deferred, before ⊆ is ∧ l ⊆ log ∧ InOrder e.Passes before l deferred ∧
      started = deferred.map e.start := by
  have hsplit {before later : List Stage} {stage : Stage} {l l' : Log}
      (split : is.map (Item.stage e) = before ++ stage :: later) (hlog : log = l ++ l')
      (passed : Machine.Passed before l started) :
      ∃ before l deferred, before ⊆ is ∧ l ⊆ log ∧ InOrder e.Passes before l deferred ∧
        started = deferred.map e.start := by
    obtain ⟨before', _, _, deferred, rfl, -, hpassed, hstarted⟩ := split_of_map split passed
    rw [hlog]
    exact ⟨before', l, deferred, List.subset_append_left _ _, List.subset_append_left _ _, hpassed,
      hstarted⟩
  cases hcourse with
  | working split hlog passed _ => exact hsplit split hlog passed
  | ended passed =>
    obtain ⟨deferred, hpassed, hstarted⟩ := passes_of_passed passed
    exact ⟨is, log, deferred, List.Subset.refl _, List.Subset.refl _, hpassed, hstarted⟩
  | failed split hlog passed _ => exact hsplit split hlog passed

/-- Whatever was started, and has ended with a failure, fails as it may. -/
theorem fails_of_mem_jobs {w : World σ} {turns : List Turn} {n : Nat} {job : Job}
    (hjob : (n, job) ∈ ((Machine.start w (e.stages recipes selection)).advanceAll s turns).jobs)
    {err : ActionError} (hfailed : job.routine = .done (.error err)) : fails err := by
  have haccount := Machine.account s w (e.stages recipes selection) turns
  rw [stages_eq] at haccount hjob
  cases haccount with
  | failed _ _ _ hdropped =>
    rw [hdropped] at hjob
    cases hjob
  | going _ course crew =>
    obtain ⟨a, ha, hgoes⟩ := crew.running n job hjob
    rw [hfailed] at hgoes
    obtain ⟨before, l, deferred, hbefore, hl, hpassed, rfl⟩ := exists_passes course
    have hwithin := h.started hbefore
      (fun d hd ↦ Machine.answeredIn_of_mem_logOf (hl hd)) hpassed ha
    exact (hwithin.routine.ends hgoes fun _ ↦ Machine.answeredIn_of_mem_logOf).2 err rfl

omit h in
/-- What none of its actions reports, no run reports, and nothing that it starts. -/
theorem not_reports {cause : ActionError} (hcause : ∀ errors, cause ≠ .deferred errors)
    (h : e.AdmitsRun s (fun err ↦ ¬ cause.Reports err) recipes selection) (w : World σ)
    (env : Environment) (payloadId : Option String) :
    (∀ turns err, (e.runBy s w env recipes selection payloadId turns).1 = some (.error err) →
      ¬ cause.Reports err) ∧
    (∀ err, (e.run s w env recipes selection payloadId).1 = some (.error err) →
      ¬ cause.Reports err) ∧
    ∀ w' turns n job err,
      (n, job) ∈ ((Machine.start w' (e.stages recipes selection)).advanceAll s turns).jobs →
      job.routine = .done (.error err) → ¬ cause.Reports err := by
  refine ⟨fun turns err hrun ↦ ?_, fun err hrun ↦ ?_, fun w' turns n job err hjob hfailed ↦ ?_⟩
  · exact (h.runFails_of_runBy hrun).not_reports hcause
  · exact (h.runFails_of_run hrun).not_reports hcause
  · exact h.fails_of_mem_jobs hjob hfailed

end AdmitsRun
end Engine
end WebRecipe
