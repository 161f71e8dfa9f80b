import WebRecipe.Proofs.Footprint.Builtin
import WebRecipe.Proofs.Footprint.Nested
import WebRecipe.Schema.Actions

/-!
# What performing an action leads to

Branches and loops perform the actions that are nested in their parameters. Which ones these are is
known only when the action starts, as its placeholders are replaced and its parameters are checked
before. An action reaches whatever it may lead to in this way, whatever the values are that take the
place of placeholders.

With the built-in actions, an action fails in three ways other than in the words of a handler: its
parameters break rules, it is not known, or what is nested in it is no list of actions. If none of
the actions that it reaches fails in a way that is ruled out, then neither does the action.

## Main definitions

* `nestingParams`: the parameters whose actions a branch or loop performs.
* `ActionCall.Starts`, `ActionCall.Reaches`: with which parameters an action starts, and what it
  leads to.
* `Engine.Admits`, `Engine.AdmitsAll`: failures other than in the words of a handler are as allowed.

## Main results

* `Engine.performWithin_within`: performing an action fails as it may.
-/

namespace WebRecipe

variable {σ : Type}

/-- The parameters whose actions an action performs: those of branches and loops. -/
def nestingParams : String → List String
  | "ifElse" => ["actions", "elseActions"]
  | "if" => ["actions"]
  | "for" => ["actions"]
  | "forEach" => ["actions"]
  | "while" => ["actions"]
  | _ => []

/-! ### Reaching -/

namespace ActionCall

/-- An action may start with parameters: they are what the given ones become when some values take
the place of the placeholders and the check has passed. -/
def Starts (call : ActionCall) (ps : Members) : Prop :=
  ∃ lookup, Schema.validate call.name
    (Placeholder.resolveMembers lookup call.paramsOrEmpty) = .ok ps

/-- Performing an action may lead to performing another one. -/
inductive Reaches (call : ActionCall) : ActionCall → Prop
  | self : Reaches call call
  | nested {outer inner : ActionCall} {ps : Members} {key : String} {calls : List ActionCall}
      (reached : Reaches call outer) (starts : outer.Starts ps)
      (hkey : key ∈ nestingParams outer.name) (body : ps.body outer.name key = .ok calls)
      (mem : inner ∈ calls) : Reaches call inner

theorem Reaches.trans {call outer inner : ActionCall} (h : call.Reaches outer)
    (h' : outer.Reaches inner) : call.Reaches inner := by
  induction h' with
  | self => exact h
  | nested _ starts hkey body mem ih => exact .nested ih starts hkey body mem

/-- An action that is no branch or loop reaches nothing else. -/
theorem Reaches.eq_of_nestingParams {call inner : ActionCall} (h : call.Reaches inner)
    (hcall : nestingParams call.name = []) : inner = call := by
  induction h with
  | self => rfl
  | nested _ _ hkey _ _ ih =>
    rw [ih, hcall] at hkey
    cases hkey

end ActionCall

namespace Engine

/-- The action by which a page is opened under a name. -/
def openingPage (key : String) : ActionCall :=
  ⟨"newPage", some [("pageKey", .str key)], true⟩

/-- What an action fails with before its handler runs, or when it reads what is nested in it, is as
allowed. -/
structure Admits (e : Engine) (fails : ActionError → Prop) (call : ActionCall) : Prop where
  checking : ∀ lookup err, Schema.validate call.name
    (Placeholder.resolveMembers lookup call.paramsOrEmpty) = .error err → fails err
  finding : e.registry.get? call.name = none → fails (.unknownAction call.name)
  reading : ∀ ps, call.Starts ps → ∀ key ∈ nestingParams call.name, ∀ err,
    ps.body call.name key = .error err → fails err

/-- An action and all that it reaches are admitted. -/
def AdmitsAll (e : Engine) (fails : ActionError → Prop) (call : ActionCall) : Prop :=
  ∀ inner, call.Reaches inner → e.Admits fails inner

/-- An action that is no branch or loop reaches only itself. -/
theorem Admits.all {e : Engine} {fails : ActionError → Prop} {call : ActionCall}
    (h : e.Admits fails call) (hcall : nestingParams call.name = []) : e.AdmitsAll fails call :=
  fun _ hreaches ↦ hreaches.eq_of_nestingParams hcall ▸ h

end Engine

/-! ### Failures -/

open WebRecipe.Action

variable {s : Surroundings σ} {fails : ActionError → Prop}

/-- A built-in action fails in its own words, or as the actions nested in it or the action that
opens a page do. -/
theorem Action.Builtin.within {name : String} {h : Handler} (hbuiltin : Builtin name h)
    {cx : Context} {ps : Members} (hown : ∀ err : ActionError, err.IsOwn → fails err)
    (hbody : ∀ key ∈ nestingParams name, BodyWithin s fails cx name ps key)
    (hnew : ∀ w : World σ, Within s (fun _ ↦ True) fails
      (cx.perform (Engine.openingPage (w.answer s .freshId).1)) (fun _ ↦ True)) :
    Within s (fun _ ↦ True) fails (h cx ps) (fun _ ↦ True) := by
  cases hbuiltin with
  | alone alone _ => exact (alone.within s cx ps).weaken (fun _ _ ↦ trivial) hown
  | ifTrue => exact branch_within hown (hbody _ List.mem_cons_self) nofun
  | ifElse =>
    exact branch_within hown (hbody _ List.mem_cons_self) fun _ ↦
      hbody _ (List.mem_cons_of_mem _ List.mem_cons_self)
  | countingLoop => exact countingLoop_within hown (hbody _ List.mem_cons_self)
  | itemLoop => exact itemLoop_within hown (hbody _ List.mem_cons_self)
  | conditionLoop => exact conditionLoop_within hown (hbody _ List.mem_cons_self)
  | callMethod => exact callMethod_within hown hnew
  | login => exact login_within.weaken (fun _ _ ↦ trivial) hown

namespace Engine

variable {e : Engine} {call : ActionCall}

private theorem step {c : Command} :
    Within s (fun _ ↦ True) fails (Action.command c) (fun _ ↦ True) :=
  (Within.command trivial).mono fun _ _ ↦ trivial

/-- The preparation of an action fails as it may; when it succeeds, the action may start with the
parameters, and its handler is the one of its name. -/
theorem prepare_within (h : e.Admits fails call) :
    Within s (fun _ ↦ True) fails (e.prepare call) (fun p ↦ call.Starts p.params ∧
      e.registry.get? call.name = some p.handler) := by
  refine .bind step fun _ _ ↦ ?_
  refine .bind step fun _ _ ↦ ?_
  refine .bind (.command trivial) fun resolved hresolved ↦ ?_
  obtain ⟨w, rfl⟩ := hresolved
  refine .bind step fun _ _ ↦ ?_
  refine .bind (.ofExcept (h.checking w.store.get?)) fun ps hps ↦ ?_
  refine .bind step fun _ _ ↦ ?_
  split
  case h_1 hnone => exact .throw (h.finding hnone)
  case h_2 handler hhandler =>
    exact .bind step fun page _ ↦ .pure ⟨⟨w.store.get?, hps⟩, hhandler⟩

section Performing

variable (hreg : e.registry = builtinRegistry) (hown : ∀ err : ActionError, err.IsOwn → fails err)
  (hnew : ∀ w : World σ, e.AdmitsAll fails (openingPage (w.answer s .freshId).1))

include hreg hown hnew

/-- A prepared action fails as it may if those that it performs do. -/
private theorem dispatch_within {perform : ActionCall → Action Unit} {p : Prepared}
    (hperform : ∀ inner, e.AdmitsAll fails inner →
      Within s (fun _ ↦ True) fails (perform inner) (fun _ ↦ True))
    (h : e.AdmitsAll fails call) (hstarts : call.Starts p.params)
    (hhandler : e.registry.get? call.name = some p.handler) :
    Within s (fun _ ↦ True) fails (e.dispatch perform p) (fun _ ↦ True) := by
  refine (builtin_of_get? hreg hhandler).within hown (fun key hkey ↦ ?_) fun w ↦ hperform _ (hnew w)
  refine ⟨(h call .self).reading _ hstarts key hkey, fun actions hbody inner hinner ↦ ?_⟩
  refine hperform inner fun deeper hdeeper ↦ h deeper (.trans ?_ hdeeper)
  exact .nested .self hstarts hkey hbody hinner

/-- **Performing an action fails as it may**, if all that it reaches does before handlers run. -/
theorem performWithin_within (depth : Nat) (h : e.AdmitsAll fails call) :
    Within s (fun _ ↦ True) fails (e.performWithin depth call) (fun _ ↦ True) := by
  induction depth generalizing call with
  | zero => exact .unfinished
  | succ depth ih =>
    refine .bind (prepare_within (h call .self)) fun p hp ↦ ?_
    exact dispatch_within hreg hown hnew (fun _ hinner ↦ ih hinner) h hp.1 hp.2

/-- Starting an action that was prepared fails as it may. -/
theorem start_within {p : Prepared} (h : e.AdmitsAll fails call) (hstarts : call.Starts p.params)
    (hhandler : e.registry.get? call.name = some p.handler) :
    Within s (fun _ ↦ True) fails (e.start p) (fun _ ↦ True) :=
  dispatch_within hreg hown hnew (fun _ hinner ↦ performWithin_within hreg hown hnew _ hinner) h
    hstarts hhandler

end Performing
end Engine
end WebRecipe
