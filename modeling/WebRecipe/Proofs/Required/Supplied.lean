import WebRecipe.Action.Control
import WebRecipe.Action.Files
import WebRecipe.Action.Interaction
import WebRecipe.Proofs.Routine.Log

/-!
# Actions that lack no text

An action that cannot do without a text fails, when it is missing, in words that name the text. Page
drivers, the file system and the console have words of their own, which an action may repeat. An
action is *supplied* when this is all that there is to it: where it fails for a missing text, it
repeats what was said to it.

The built-in actions read their texts before they do anything else. What is left after that is
supplied, so an action is supplied when its parameters have the texts that it reads; and if they
lack one of them it fails at once.

## Main definitions

* `SaysMissing`, `Deed.complaint?`: a text that names a missing text, and the words of the world.
* `Action.Supplied`: an action that fails for a missing text only in the words of the world.
* `Action.Reads`, `Handler.Reads`: the texts that an action reads first, and cannot do without.

## Main results

* `Action.Reads.supplied`, `Action.Reads.fails`: an action with the texts that it reads, and one
  that lacks some of them.
-/

namespace WebRecipe

variable {α β : Type}

/-! ### Words -/

/-- A text says that a text is missing. -/
def SaysMissing (text : String) : Prop :=
  ∃ key, text = "Missing string parameter '" ++ key ++ "'"

/-- A text that begins differently says no such thing. -/
theorem not_saysMissing {text : String} (h : text.toList.head? ≠ some 'M') :
    ¬ SaysMissing text := by
  rintro ⟨key, rfl⟩
  exact h (by simp)

/-- An error in the words of an action that lacks a text. -/
def ActionError.NamesMissing : ActionError → Prop
  | .failed _ text => SaysMissing text
  | _ => False

/-- What the world says when it cannot do what it is told. -/
def Deed.complaint? : Deed → Option String
  | ⟨.openPage, .error e⟩ => some e.message
  | ⟨.closePage _, .error e⟩ => some e.message
  | ⟨.page _ _, .error e⟩ => some e.message
  | ⟨.file _, .error e⟩ => some e.message
  | ⟨.ask _, .error e⟩ => some e.message
  | _ => none

/-- An error that repeats what the world said, or has no words of its own. -/
def Relays {ε : Type} (message : ε → String) (toError : ε → ActionError) : Prop :=
  ∀ e action text, toError e = .failed action text → text = message e

namespace Action

/-- Where an action fails for a missing text, it repeats what the world said meanwhile, or just
before. -/
def SuppliedAfter (said : Option String) (x : Action α) : Prop :=
  ∀ log action text, x.run.Ends log (.error (.failed action text)) → SaysMissing text →
    said = some text ∨ ∃ d ∈ log, d.complaint? = some text

/-- Where an action fails for a missing text, it repeats what the world said meanwhile. -/
abbrev Supplied (x : Action α) : Prop :=
  x.SuppliedAfter none

/-! ### What actions are made of -/

namespace SuppliedAfter

variable {said : Option String} {x : Action α} {f : α → Action β}

theorem weaken (h : x.Supplied) : x.SuppliedAfter said :=
  fun log action text hends hmissing ↦ .inr ((h log action text hends hmissing).resolve_left nofun)

theorem bind (h : x.SuppliedAfter said) (hf : ∀ a, (f a).SuppliedAfter said) :
    (x >>= f).SuppliedAfter said := by
  intro log action text hends hmissing
  rcases Routine.ends_bind_error.1 hends with hx | ⟨a, before, later, rfl, -, hfa⟩
  · exact h log action text hx hmissing
  · refine (hf a later action text hfa hmissing).imp_right ?_
    rintro ⟨d, hd, hcomplaint⟩
    exact ⟨d, List.mem_append_right before hd, hcomplaint⟩

/-- A routine that is looked at as a whole succeeds with what it ends with. -/
private theorem ends_lift {r : Routine α} {log : Log} {o : Except ActionError α} :
    (ExceptT.lift r : Action α).run.Ends log o ↔ ∃ a, o = .ok a ∧ r.Ends log a := by
  rw [ExceptT.run_lift, map_eq_pure_bind, Routine.ends_bind]
  constructor
  · rintro ⟨a, before, later, rfl, hends, hdone⟩
    obtain ⟨rfl, rfl⟩ := Routine.ends_done.1 hdone
    exact ⟨a, rfl, (List.append_nil before).symm ▸ hends⟩
  · rintro ⟨a, rfl, hends⟩
    exact ⟨a, log, [], (List.append_nil log).symm, hends, Routine.ends_done.2 ⟨rfl, rfl⟩⟩

theorem lift {r : Routine α} : SuppliedAfter said (ExceptT.lift r : Action α) := by
  intro log action text hends
  obtain ⟨a, he, -⟩ := ends_lift.1 hends
  cases he

theorem command {c : Command} : (Action.command c).SuppliedAfter said :=
  lift

/-- What follows a command may repeat the reply. -/
theorem command_bind {c : Command} {f : c.Reply → Action β}
    (hf : ∀ reply, (f reply).SuppliedAfter (Deed.complaint? ⟨c, reply⟩)) :
    (Action.command c >>= f).SuppliedAfter said := by
  intro log action text hends hmissing
  obtain ⟨reply, later, rfl, hlater⟩ := Routine.ends_command_bind.1 hends
  rcases hf reply later action text hlater hmissing with hsaid | ⟨d, hd, hcomplaint⟩
  · exact .inr ⟨_, List.mem_cons_self, hsaid⟩
  · exact .inr ⟨d, List.mem_cons_of_mem _ hd, hcomplaint⟩

theorem ofExcept {o : Except ActionError α}
    (h : ∀ action text, o = .error (.failed action text) → SaysMissing text → said = some text) :
    (Action.ofExcept o).SuppliedAfter said := by
  intro log action text hends hmissing
  exact .inl (h action text (Routine.ends_done.1 hends).2 hmissing)

/-- What follows an outcome that is known may depend on it. -/
theorem ofExcept_bind {o : Except ActionError α} (h : ∀ e, o = .error e → ¬ e.NamesMissing)
    (hf : ∀ a, o = .ok a → (f a).SuppliedAfter said) :
    (Action.ofExcept o >>= f).SuppliedAfter said := by
  cases o with
  | ok a => exact hf a rfl
  | error e =>
    intro log action text hends hmissing
    obtain ⟨-, he⟩ := Routine.ends_done.1 hends
    cases he
    exact absurd hmissing (h _ rfl)

theorem pure {a : α} : (Pure.pure a : Action α).SuppliedAfter said :=
  ofExcept nofun

theorem unfinished : (Action.unfinished : Action α).SuppliedAfter said :=
  fun _ _ _ hends ↦ nomatch hends

theorem throw {e : ActionError} (h : ¬ e.NamesMissing) :
    (MonadExcept.throw e : Action α).SuppliedAfter said := by
  refine ofExcept fun action text he hmissing ↦ ?_
  cases he
  exact absurd hmissing h

theorem throw_bind {e : ActionError} (h : ¬ e.NamesMissing) :
    (MonadExcept.throw e >>= f).SuppliedAfter said := by
  change (MonadExcept.throw e : Action β).SuppliedAfter said
  exact throw h

theorem ite {c : Prop} [Decidable c] {y : Action α} (hx : x.SuppliedAfter said)
    (hy : y.SuppliedAfter said) : (if c then x else y).SuppliedAfter said := by
  split
  · exact hx
  · exact hy

theorem orFail {ε : Type} {message : ε → String} {toError : ε → ActionError} {o : Except ε α}
    (h : Relays message toError) (hsaid : ∀ e, o = .error e → said = some (message e)) :
    (Action.orFail toError o).SuppliedAfter said := by
  refine ofExcept fun action text he _ ↦ ?_
  cases o with
  | ok a => cases he
  | error e => rw [h e action text (Except.error.inj he), hsaid e rfl]

/-- An error that names no missing text, whatever is put in its words. -/
theorem orFail_of_not {ε : Type} {toError : ε → ActionError} {o : Except ε α}
    (h : ∀ e, ¬ (toError e).NamesMissing) : (Action.orFail toError o).SuppliedAfter said := by
  refine ofExcept fun action text he hmissing ↦ ?_
  cases o with
  | ok a => cases he
  | error e =>
    refine absurd ?_ (h e)
    rw [Except.error.inj he]
    exact hmissing

/-- What is done one block deeper fails as it does otherwise. -/
theorem indented (h : x.Supplied) : (Action.indented x).SuppliedAfter said := by
  refine bind command fun _ ↦ ?_
  intro log action text hends hmissing
  rcases Routine.ends_bind_error.1 hends with hlift | ⟨outcome, before, later, rfl, hbefore, hlater⟩
  · exact lift log action text hlift hmissing
  · obtain ⟨_, heq, hx⟩ := ends_lift.1 hbefore
    cases heq
    rcases Routine.ends_bind_error.1 hlater with hout | ⟨_, _, _, rfl, -, hend⟩
    · exact absurd hout fun hout ↦ nomatch (ends_lift.1 hout)
    · obtain ⟨-, rfl⟩ := Routine.ends_done.1 hend
      obtain ⟨d, hd, hcomplaint⟩ := (h before action text hx hmissing).resolve_left nofun
      exact .inr ⟨d, List.mem_append_left _ hd, hcomplaint⟩

/-- An action that is tried again fails as its last attempt does. -/
theorem withRetries {options : RetryOptions} {attempt : Action Unit} (h : attempt.Supplied) :
    (Action.withRetries options attempt).SuppliedAfter said := by
  refine weaken ?_
  unfold Action.withRetries Retry.run
  generalize hdelay : options.initialDelay = delay
  generalize 0 = tried
  generalize options.maxAttempts - 1 = more
  clear hdelay
  induction more generalizing tried delay with
  | zero => exact h
  | succ more ih =>
    intro log action text hends hmissing
    obtain ⟨outcome, before, later, rfl, hbefore, hlater⟩ := Routine.ends_bind.1 hends
    cases outcome with
    | ok _ => exact nomatch (Routine.ends_done.1 hlater).2
    | error e =>
      have hagain : Routine.Ends (if isPassing e.message then _ else .done (Except.error e)) later
          (.error (.failed action text)) := hlater
      split at hagain
      · obtain ⟨_, _, last, rfl, -, hlast⟩ := Routine.ends_bind.1 hagain
        obtain ⟨d, hd, hcomplaint⟩ := (ih _ _ last action text hlast hmissing).resolve_left nofun
        exact .inr ⟨d, by simp [hd], hcomplaint⟩
      · obtain ⟨rfl, he⟩ := Routine.ends_done.1 hagain
        rw [he] at hbefore
        obtain ⟨d, hd, hcomplaint⟩ := (h before action text hbefore hmissing).resolve_left nofun
        exact .inr ⟨d, by simp [hd], hcomplaint⟩

/-! ### Commands of actions -/

theorem onPage {page : PageId} {call : PageCall} {toError : PageError → ActionError}
    (h : Relays PageError.message toError) :
    (Action.onPage page call toError).SuppliedAfter said :=
  command_bind fun _ ↦ orFail h fun e he ↦ by rw [he]; rfl

theorem file {action operation : String} {call : FileCall} :
    (Action.file action operation call).SuppliedAfter said :=
  bind command fun _ ↦ orFail_of_not fun _ ↦ id

theorem pathExists {path : String} : (Action.pathExists path).SuppliedAfter said := by
  refine bind command fun reply ↦ ?_
  split
  · exact pure
  · exact pure

theorem getText {key : String} : (Action.getText key).SuppliedAfter said :=
  bind command fun _ ↦ pure

theorem needPage {cx : Context} {action : String} :
    (Action.ofExcept (cx.needPage action)).SuppliedAfter said := by
  rw [Context.needPage]
  split
  · exact pure
  · exact throw (not_saysMissing (by simp))

theorem body {ps : Members} {action key : String} :
    (Action.ofExcept (ps.body action key)).SuppliedAfter said :=
  orFail_of_not fun _ ↦ id

theorem runBlock {cx : Context} (h : ∀ call, (cx.perform call).Supplied)
    (actions : List ActionCall) : (cx.runBlock actions).SuppliedAfter said := by
  induction actions with
  | nil => exact pure
  | cons call rest ih => exact bind (weaken (h call)) fun _ ↦ ih

end SuppliedAfter

/-- An error that has the words of the world. -/
theorem relays_pageFailure (action : String) : Relays PageError.message (pageFailure action) := by
  intro e _ _ h
  cases h
  rfl

theorem relays_selectorFailure (action selector : String) :
    Relays PageError.message (selectorFailure action selector) :=
  nofun

/-! ### Texts that are read first -/

/-- An action reads texts one after another before it does anything else, and is supplied when it
has them. -/
inductive Reads (name : String) (ps : Members) : List String → Action Unit → Prop
  | done {x : Action Unit} (h : x.Supplied) : Reads name ps [] x
  | text {key : String} {keys : List String} {f : String → Action Unit}
      (h : ∀ v, Reads name ps keys (f v)) :
      Reads name ps (key :: keys) (do f (← ofExcept (ps.text name key)))

namespace Reads

variable {name : String} {ps : Members} {key : String} {keys : List String} {x : Action Unit}

/-- A text may be read as the first part of an outcome. -/
theorem text_bind {g : String → Except ActionError α} {f : α → Action Unit}
    (h : ∀ v, Reads name ps keys (do f (← ofExcept (g v)))) :
    Reads name ps (key :: keys) (do f (← ofExcept (ps.text name key >>= g))) := by
  have heq : (do f (← ofExcept (ps.text name key >>= g)) : Action Unit) =
      (do f (← ofExcept (g (← ofExcept (ps.text name key))))) := by
    cases ps.text name key <;> rfl
  rw [heq]
  exact text h

private theorem text_cases (ps : Members) (name key : String) :
    (∃ v, ps.get? key = some (.str v) ∧ ps.text name key = .ok v) ∨
      (∀ v, ps.get? key ≠ some (.str v)) ∧
        ps.text name key = .error (.failed name ("Missing string parameter '" ++ key ++ "'")) := by
  unfold Members.text
  cases ps.get? key with
  | none => exact .inr ⟨nofun, rfl⟩
  | some v =>
    cases v with
    | str v => exact .inl ⟨v, rfl, rfl⟩
    | _ => exact .inr ⟨nofun, rfl⟩

/-- An action with the texts that it reads is supplied. -/
theorem supplied (h : Reads name ps keys x)
    (hkeys : ∀ key ∈ keys, ∃ v, ps.get? key = some (.str v)) : x.Supplied := by
  induction h with
  | done h => exact h
  | @text key keys f _ ih =>
    obtain ⟨⟨v, hv⟩, hrest⟩ := List.forall_mem_cons.1 hkeys
    rcases text_cases ps name key with ⟨v, -, htext⟩ | ⟨hlacks, -⟩
    · rw [htext]
      exact ih v hrest
    · exact absurd hv (hlacks v)

/-- An action that lacks a text that it reads fails at once, and names one that is missing. -/
theorem fails (h : Reads name ps keys x)
    (hlacks : ∃ key ∈ keys, ∀ v, ps.get? key ≠ some (.str v)) :
    ∃ key ∈ keys, (∀ v, ps.get? key ≠ some (.str v)) ∧
      x = throw (.failed name ("Missing string parameter '" ++ key ++ "'")) := by
  induction h with
  | done => exact nomatch hlacks.choose_spec.1
  | @text key keys f _ ih =>
    rcases text_cases ps name key with ⟨v, hv, htext⟩ | ⟨hmissing, htext⟩
    · have hrest : ∃ key ∈ keys, ∀ v, ps.get? key ≠ some (.str v) := by
        obtain ⟨other, hother, hnone⟩ := hlacks
        rcases List.mem_cons.1 hother with rfl | hother
        · exact absurd hv (hnone v)
        · exact ⟨other, hother, hnone⟩
      obtain ⟨missing, hmem, hnone, heq⟩ := ih v hrest
      refine ⟨missing, List.mem_cons_of_mem _ hmem, hnone, ?_⟩
      rw [htext]
      exact heq
    · refine ⟨key, List.mem_cons_self, hmissing, ?_⟩
      rw [htext]
      rfl

end Reads
end Action

/-- A handler reads texts before it does anything else, and is supplied when it has them and what it
performs is supplied. -/
def Handler.Reads (name : String) (keys : List String) (h : Handler) : Prop :=
  ∀ (cx : Context) ps, (∀ call, (cx.perform call).Supplied) → Action.Reads name ps keys (h cx ps)

end WebRecipe
