import WebRecipe.Engine
import WebRecipe.Proofs.Routine.Contract

/-!
# Performing actions, step by step

Before a handler runs, its action is announced, its parameters are put into the store, and the
active page is looked up. What these few commands keep holds when the handler begins, which then
has the announced name as its author. A session performs actions one after another.

## Main definitions

* `Command.Prepares`: a command with which an action is prepared.
* `Engine.session`: actions performed one after another.

## Main results

* `Engine.prepare_bind`: what follows the preparation of an action, with its steps in a row.
* `Engine.ensures_prepare`, `Engine.ensures_prepare_bind`: what holds when a handler begins.
-/

namespace WebRecipe

variable {σ : Type}

/-- The commands with which an action is prepared. -/
inductive Command.Prepares (name : String) : Command → Prop where
  | announce : Prepares name (.display (announcement ++ name))
  | put (params : Json) : Prepares name (.store (.put Key.params params))
  | resolve (params : Members) : Prepares name (.store (.resolve params))
  | activePage : Prepares name (.store .activePage)

namespace Engine

/-- Performs actions one after another, whether they succeed or fail. -/
def session (e : Engine) : List ActionCall → Routine Unit
  | [] => return ()
  | call :: rest => do
    let _ ← (e.perform call).run
    e.session rest

/-- What follows the preparation of an action follows the look at the active page, if the action is
known. -/
theorem prepare_bind {β : Type} (e : Engine) (call : ActionCall) (f : Prepared → Action β) :
    (e.prepare call >>= f) = (do
      Action.display (announcement ++ call.name)
      Action.put Key.params (.obj call.paramsOrEmpty)
      let resolved : Members ← Action.access (.resolve call.paramsOrEmpty)
      Action.put Key.params (.obj resolved)
      let params ← Action.ofExcept (Schema.validate call.name resolved)
      Action.put Key.params (.obj params)
      match e.registry.get? call.name with
      | none => throw (.unknownAction call.name)
      | some handler => do
        let page ← Action.access .activePage
        f ⟨handler, params, page⟩) := by
  rw [prepare]
  refine (bind_assoc ..).trans (congrArg _ (funext fun _ ↦ ?_))
  refine (bind_assoc ..).trans (congrArg _ (funext fun _ ↦ ?_))
  refine (bind_assoc ..).trans (congrArg _ (funext fun resolved ↦ ?_))
  refine (bind_assoc ..).trans (congrArg _ (funext fun _ ↦ ?_))
  refine (bind_assoc ..).trans (congrArg _ (funext fun params ↦ ?_))
  refine (bind_assoc ..).trans (congrArg _ (funext fun _ ↦ ?_))
  cases e.registry.get? call.name with
  | none => rfl
  | some handler => rfl

variable {k : Contract σ} {I : Option String → World σ → Prop} {author : Option String}
  {w : World σ} {call : ActionCall}

/-- What the preparation of an action keeps holds after it, and when it succeeds, the action is the
author of what is done next and its handler is the one of its name. -/
theorem ensures_prepare (e : Engine) (hI : I author w)
    (hcommand : ∀ c author w, c.Prepares call.name → I author w → k.assumes ⟨author, w, c⟩ →
      k.guarantees ⟨author, w, c⟩ ∧ I (c.latest author) (w.answer k.surroundings c).2) :
    k.Ensures (fun r author w ↦ I author w ∧ ∀ p, r = .ok p →
      author = some call.name ∧ e.registry.get? call.name = some p.handler) author w
      (e.prepare call).run := by
  -- from the announcement on, the action is the author of what is done
  let J : Option String → World σ → Prop := fun a w ↦ a = some call.name ∧ I a w
  have hJ {c : Command} (hc : c.Prepares call.name) (hauthor : c.announced? = none) :
      k.Keeps J (Action.command c) (fun _ ↦ True) := by
    refine .command fun a w hJ hassumes ↦ ?_
    obtain ⟨hguarantees, hI'⟩ := hcommand c a w hc hJ.2 hassumes
    refine ⟨hguarantees, ⟨?_, hI'⟩, trivial⟩
    rw [Command.latest, hauthor, hJ.1]
    rfl
  have hput (params : Json) : k.Keeps J (Action.put Key.params params) (fun _ ↦ True) :=
    hJ (.put params) rfl
  rw [prepare]
  intro hassumes
  obtain ⟨hguarantees, hI'⟩ := hcommand _ author w .announce hI hassumes
  have hauthor : (Command.display (announcement ++ call.name)).latest author = some call.name := by
    rw [Command.latest, Command.announced?_announcement]
    rfl
  refine ⟨hguarantees, ((?_ : k.Keeps J _ (fun p : Prepared ↦
    e.registry.get? call.name = some p.handler)).ensures _ _ ⟨hauthor, hI'⟩).mono
    fun r author w hr ↦ ⟨hr.1.2, fun p hp ↦ ⟨hr.1.1, hr.2 p hp⟩⟩⟩
  refine .bind (hput _) fun _ _ ↦ ?_
  refine .bind (hJ (.resolve _) rfl) fun resolved _ ↦ ?_
  refine .bind (hput _) fun _ _ ↦ ?_
  refine .bind .ofExcept fun params _ ↦ ?_
  refine .bind (hput _) fun _ _ ↦ ?_
  cases hhandler : e.registry.get? call.name with
  | none => exact .throw
  | some handler => exact .bind (hJ .activePage rfl) fun page _ ↦ .pure rfl

/-- What the preparation of an action keeps holds when its handler begins. -/
theorem ensures_prepare_bind (e : Engine)
    {post : Except ActionError Unit → Option String → World σ → Prop}
    {f : Prepared → Action Unit} (hI : I author w)
    (hcommand : ∀ c author w, c.Prepares call.name → I author w → k.assumes ⟨author, w, c⟩ →
      k.guarantees ⟨author, w, c⟩ ∧ I (c.latest author) (w.answer k.surroundings c).2)
    (herror : ∀ e author w, I author w → post (.error e) author w)
    (hok : ∀ p w, I (some call.name) w → e.registry.get? call.name = some p.handler →
      k.Ensures post (some call.name) w (f p).run) :
    k.Ensures post author w (e.prepare call >>= f).run := by
  rw [Contract.ensures_action_bind]
  refine (e.ensures_prepare hI hcommand).mono fun r author w hr ↦ ?_
  cases r with
  | ok p =>
    obtain ⟨rfl, hget⟩ := hr.2 p rfl
    exact hok p w hr.1 hget
  | error err => exact herror err author w hr.1

end Engine
end WebRecipe
