import WebRecipe.Action.Builtin
import WebRecipe.Proofs.Engine
import WebRecipe.Proofs.Routine.Alone
import WebRecipe.Rehearsal

/-!
# Resolving actions

Before its handler runs an action is resolved, which leaves the world as it is but for one line and
for the parameters in the store. An action is rejected here when its parameters, with their
placeholders replaced, break rules, or when nobody has registered its name. Nothing else comes of an
action that is rejected: whatever would have followed, its handler first of all, plays no part.

This holds wherever the action is reached. In a block, which may be nested in others to any depth,
the world is the one that the actions before it have left. The actions after it are left out, and
what is around the block goes on with the failure.

## Main definitions

* `ActionCall.resolvedIn`: the parameters with their placeholders replaced.
* `World.OnlyAnnounced`: nothing was done but to announce an action.
* `Engine.Rejects`: why an action is rejected.
* `Engine.context`: what the handler of an action can use.

## Main results

* `Engine.run_prepare`: what resolving an action comes to.
* `Engine.of_rejected`, `Engine.Rejects.run_prepare`: an action fails while it is resolved just when
  it is rejected.
* `Engine.performWithin_of_prepared`, `Engine.performWithin_showEnd`: what performing an action comes
  to that was not rejected, whatever its handler does and when it runs a block.
* `Engine.rejected_unchanged`: an action that is rejected has no effect.
-/

namespace WebRecipe

variable {σ : Type}

/-- The parameters of an action with their placeholders replaced by what a store holds. The store
holds the parameters, too, as they are given. -/
def ActionCall.resolvedIn (call : ActionCall) (st : Store) : Members :=
  Placeholder.resolveMembers (st.put Key.params (.obj call.paramsOrEmpty)).get? call.paramsOrEmpty

/-- From the first of two worlds to the second, an action was announced, and its parameters were put
into the store; everything else is as it was. -/
structure World.OnlyAnnounced (name : String) (w w' : World σ) : Prop where
  lines : w'.lines =
    w.lines.push (Output.line w.store.indent w.store.payloadId (announcement ++ name))
  store : ∃ ps : Members, w'.store = w.store.put Key.params (.obj ps)
  values : ∀ key, key ≠ Key.params → w'.store.get? key = w.store.get? key
  pages : w'.store.pages = w.store.pages
  activePage : w'.store.activePage = w.store.activePage
  files : w'.files = w.files
  clock : w'.clock = w.clock
  rest : w'.rest = w.rest

theorem World.onlyAnnounced (w : World σ) (name : String) (ps : Members) :
    w.OnlyAnnounced name ((w.showing (announcement ++ name)).putting Key.params (.obj ps)) where
  lines := rfl
  store := ⟨ps, rfl⟩
  values _ h := Store.get?_put_other h
  pages := rfl
  activePage := rfl
  files := rfl
  clock := rfl
  rest := rfl

namespace Engine

/-- Why an action is rejected while it is resolved: its parameters break rules, or they are as they
should be but its name is not registered. -/
inductive Rejects (e : Engine) (st : Store) (call : ActionCall) : ActionError → Prop
  | invalid {err : ActionError}
      (checked : Schema.validate call.name (call.resolvedIn st) = .error err) :
      Rejects e st call err
  | unknown {ps : Members} (checked : Schema.validate call.name (call.resolvedIn st) = .ok ps)
      (unregistered : e.registry.get? call.name = none) :
      Rejects e st call (.unknownAction call.name)

/-- What the handler of an action can use that is performed with actions nested up to a depth. -/
def context (e : Engine) (depth : Nat) (p : Prepared) : Context :=
  ⟨e.settings, p.page, e.performWithin depth, e.patience⟩

variable {s : Surroundings σ} {w w' : World σ} {e : Engine} {call : ActionCall}

/-- What resolving an action comes to. -/
theorem run_prepare (e : Engine) (s : Surroundings σ) (w : World σ) (call : ActionCall) :
    (e.prepare call).run.run s w = match Schema.validate call.name (call.resolvedIn w.store) with
      | .error err => (some (.error err), (w.showing (announcement ++ call.name)).putting Key.params
          (.obj (call.resolvedIn w.store)))
      | .ok ps => (some (match e.registry.get? call.name with
            | none => .error (.unknownAction call.name)
            | some handler => .ok ⟨handler, ps, w.store.activePage⟩),
          (w.showing (announcement ++ call.name)).putting Key.params (.obj ps)) := by
  -- up to the check the parameters are put twice
  have hresolve : (e.prepare call).run.run s w =
      (do
        let params ← Action.ofExcept (Schema.validate call.name (call.resolvedIn w.store))
        Action.put Key.params (.obj params)
        match e.registry.get? call.name with
        | none => throw (.unknownAction call.name)
        | some handler => return ⟨handler, params, ← Action.access .activePage⟩ :
          Action Prepared).run.run s
        (((w.showing (announcement ++ call.name)).putting Key.params
          (.obj call.paramsOrEmpty)).putting Key.params (.obj (call.resolvedIn w.store))) :=
    rfl
  rw [hresolve, World.putting_putting]
  cases Schema.validate call.name (call.resolvedIn w.store) with
  | error err => rfl
  | ok ps =>
    have hput (w' : World σ) (x : Action Prepared) :
        (do Action.put Key.params (.obj ps); x).run.run s w' =
          x.run.run s (w'.putting Key.params (.obj ps)) :=
      rfl
    refine (hput _ _).trans ?_
    rw [World.putting_putting]
    cases e.registry.get? call.name with
    | none => rfl
    | some handler => rfl

/-- An action that is resolved has its checked parameters and the handler of its name, and was only
announced. -/
theorem announced_of_prepared {p : Prepared}
    (h : (e.prepare call).run.run s w = (some (.ok p), w')) :
    Schema.validate call.name (call.resolvedIn w.store) = .ok p.params ∧
      e.registry.get? call.name = some p.handler ∧ w.OnlyAnnounced call.name w' := by
  rw [run_prepare] at h
  cases hchecked : Schema.validate call.name (call.resolvedIn w.store) with
  | error err =>
    rw [hchecked] at h
    cases h
  | ok ps =>
    rw [hchecked] at h
    cases hget : e.registry.get? call.name with
    | none =>
      rw [hget] at h
      cases h
    | some handler =>
      rw [hget] at h
      cases h
      exact ⟨rfl, rfl, w.onlyAnnounced _ _⟩

/-- An action that is resolved keeps the page that is active. -/
theorem page_of_prepared {p : Prepared} (h : (e.prepare call).run.run s w = (some (.ok p), w')) :
    p.page = w.store.activePage := by
  rw [run_prepare] at h
  cases hchecked : Schema.validate call.name (call.resolvedIn w.store) with
  | error err =>
    rw [hchecked] at h
    cases h
  | ok ps =>
    rw [hchecked] at h
    cases hget : e.registry.get? call.name with
    | none =>
      rw [hget] at h
      cases h
    | some handler =>
      rw [hget] at h
      cases h
      rfl

/-- An action fails while it is resolved when it is rejected, and then it was only announced. -/
theorem of_rejected {err : ActionError} (h : ((e.prepare call).run.run s w).1 = some (.error err)) :
    e.Rejects w.store call err ∧ w.OnlyAnnounced call.name ((e.prepare call).run.run s w).2 := by
  rw [run_prepare] at h ⊢
  cases hchecked : Schema.validate call.name (call.resolvedIn w.store) with
  | error err' =>
    rw [hchecked] at h
    cases h
    exact ⟨.invalid hchecked, w.onlyAnnounced _ _⟩
  | ok ps =>
    rw [hchecked] at h
    cases hget : e.registry.get? call.name with
    | none =>
      rw [hget] at h
      cases h
      exact ⟨.unknown hchecked hget, w.onlyAnnounced _ _⟩
    | some handler =>
      rw [hget] at h
      cases h

/-- An action that is rejected fails while it is resolved. -/
theorem Rejects.run_prepare {err : ActionError} (h : e.Rejects w.store call err)
    (s : Surroundings σ) : ((e.prepare call).run.run s w).1 = some (.error err) := by
  rw [Engine.run_prepare]
  cases h with
  | invalid checked => rw [checked]
  | unknown checked unregistered => rw [checked, unregistered]

/-- What performing an action comes to that is resolved. -/
theorem performWithin_of_prepared {p : Prepared}
    (h : (e.prepare call).run.run s w = (some (.ok p), w')) (depth : Nat) :
    (e.performWithin (depth + 1) call).run.run s w =
      (p.handler (e.context depth p) p.params).run.run s w' :=
  Action.run_bind_ok h

/-- What performing an action comes to that is resolved, by the handler of its name. -/
theorem performWithin_of_handler {p : Prepared} {name : String} {handler : Handler}
    (hget : e.registry.get? name = some handler) (hname : call.name = name)
    (h : (e.prepare call).run.run s w = (some (.ok p), w')) (depth : Nat) :
    (e.performWithin (depth + 1) call).run.run s w =
      (handler (e.context depth p) p.params).run.run s w' := by
  obtain ⟨-, hhandler, -⟩ := announced_of_prepared h
  obtain rfl : p.handler = handler := by
    rw [hname, hget] at hhandler
    exact (Option.some.inj hhandler).symm
  exact performWithin_of_prepared h depth

/-- An action whose handler runs a block comes to what the block does, and reaches what the block
reaches. -/
theorem performWithin_showEnd {p : Prepared} {depth : Nat} {line : String} {block : Action Unit}
    (hprepared : (e.prepare call).run.run s w = (some (.ok p), w'))
    (hhandler : (p.handler (e.context depth p) p.params).run.Leads s w'
      (Action.showEnd line block).run w') :
    (e.performWithin (depth + 1) call).run.run s w =
        Action.closed line (block.run.run s w'.deeper) ∧
      ∀ {β : Type} (part : Action β) (begun : World σ),
        Action.Reaches s w'.deeper block part begun →
        Action.Reaches s w (e.performWithin (depth + 1) call) part begun := by
  constructor
  · rw [performWithin_of_prepared hprepared, hhandler.run_eq, Action.run_showEnd]
  · exact fun part begun hreaches ↦ .after hprepared (.of_leads hhandler (hreaches.showEnd line))

/-- **An action that is rejected has no effect.** Its parameters break rules, or its name is not
registered. It was only announced, and whatever is to be done with a resolved action is not done.
A block that comes to it ends with its failure, in the world that the actions before it have left
but for the announcement. Wherever else it is performed, in blocks nested to any depth, what is
around it goes on with the failure in that world. -/
theorem rejected_unchanged (e : Engine) (s : Surroundings σ) (w : World σ) (call : ActionCall)
    (err : ActionError) (hrejected : ((e.prepare call).run.run s w).1 = some (.error err)) :
    e.Rejects w.store call err ∧ ∃ w' : World σ, w.OnlyAnnounced call.name w' ∧
      (∀ depth, (e.performWithin (depth + 1) call).run.run s w = (some (.error err), w')) ∧
      (∀ {β : Type} (f : Prepared → Action β),
        (e.prepare call >>= f).run.run s w = (some (.error err), w')) ∧
      (∀ depth (cx : Context) (before after : List ActionCall) (w₀ : World σ),
        cx.perform = e.performWithin (depth + 1) →
        (cx.runBlock before).run.run s w₀ = (some (.ok ()), w) →
        (cx.runBlock (before ++ call :: after)).run.run s w₀ = (some (.error err), w')) ∧
      ∀ {γ : Type} depth (outer : Routine γ) (w₀ : World σ)
        (k : Except ActionError Unit → Routine γ),
        outer.Leads s w₀ ((e.performWithin (depth + 1) call).run >>= k) w →
        outer.Leads s w₀ (k (.error err)) w' := by
  obtain ⟨hrejects, hannounced⟩ := of_rejected hrejected
  have hfails {β : Type} (f : Prepared → Action β) : (e.prepare call >>= f).run.run s w =
      (some (.error err), ((e.prepare call).run.run s w).2) :=
    Action.run_bind_error (Prod.ext hrejected rfl)
  refine ⟨hrejects, _, hannounced, fun depth ↦ hfails _, hfails, ?_, ?_⟩
  · intro depth cx before after w₀ hperform hbefore
    rw [Context.runBlock_append, Action.run_bind_ok hbefore, Context.runBlock, hperform]
    exact Action.run_bind_error (hfails _)
  · intro γ depth outer w₀ k houter
    exact houter.trans (Routine.leads_of_run (hfails _) k)

/-- A line is shown in a block, and then a click without a selector is rejected. The line after it
is not shown. -/
theorem rejected_unchanged_click :
    let e : Engine := { registry := Action.builtinRegistry }
    let cx : Context := ⟨e.settings, none, e.performWithin 1, e.patience⟩
    let saying (text : String) : ActionCall := ⟨"log", some [("message", .str text)], true⟩
    let w : World Rehearsal := { rest := {} }
    ∃ err w', (cx.runBlock ([saying "hi"] ++ ⟨"click", none, true⟩ :: [saying "ho"])).run.run
        Rehearsal.surroundings w = (some (.error err), w') ∧
      w'.lines = #["Running action : log", ": hi", "Running action : click"] := by
  intro e cx saying w
  let said := (cx.runBlock [saying "hi"]).run.run Rehearsal.surroundings w
  let click : ActionCall := ⟨"click", none, true⟩
  obtain ⟨err, hrejected⟩ : ∃ err,
      ((e.prepare click).run.run Rehearsal.surroundings said.2).1 = some (.error err) := by
    have hfails : ((e.prepare click).run.run Rehearsal.surroundings said.2).1.any Except.isOk =
        false ∧ ((e.prepare click).run.run Rehearsal.surroundings said.2).1.isSome = true := by
      decide +kernel
    revert hfails
    rcases ((e.prepare click).run.run Rehearsal.surroundings said.2).1 with _ | ⟨err | _⟩
    · exact fun h ↦ nomatch h.2
    · exact fun _ ↦ ⟨err, rfl⟩
    · exact fun h ↦ nomatch h.1
  have hsaid : said = (some (.ok ()), said.2) := by
    have hends : said.1.any Except.isOk = true := by decide +kernel
    revert hends
    rcases said with ⟨_ | ⟨_ | ⟨⟩⟩, _⟩
    · exact nofun
    · exact nofun
    · exact fun _ ↦ rfl
  obtain ⟨-, w', -, -, -, hblock, -⟩ := rejected_unchanged e Rehearsal.surroundings said.2 click err
    hrejected
  have hrun := hblock 0 cx [saying "hi"] [saying "ho"] w rfl hsaid
  have hlines : ((cx.runBlock ([saying "hi"] ++ click :: [saying "ho"])).run.run
      Rehearsal.surroundings w).2.lines =
        #["Running action : log", ": hi", "Running action : click"] := by
    decide +kernel
  rw [hrun] at hlines
  exact ⟨err, w', hrun, hlines⟩

end Engine
end WebRecipe
