import WebRecipe.Action.Interaction
import WebRecipe.Action.Pages
import WebRecipe.Proofs.Routine.Footprint

/-!
# Actions on elements and on pages

These actions hand on a value at most, whatever they are given and however often they are tried.
Taking pictures touches files and is among the actions on files.

## Main results

* `Action.Within.withRetries`: trying an action again keeps within the bounds of the action.
* `Action.click_within`, `Action.newPage_within`, …: one statement for each action.
* `Action.pageMethod_within`: the methods of pages that are called by name.
-/

namespace WebRecipe.Action

variable {σ : Type} {s : Surroundings σ} {f : Footprint}

/-! ### Trying again -/

/-- Trying an action again keeps within the bounds of the action. -/
theorem Within.withRetries {may : Command → Prop} {fails : ActionError → Prop}
    {options : RetryOptions} {attempt : Action Unit} {post : Unit → Prop}
    (hdisplay : ∀ n delay, may (.display (Retry.line n options.maxAttempts delay)))
    (hsleep : ∀ ms, may (.sleep ms)) (h : Within s may fails attempt post) :
    Within s may fails (withRetries options attempt) post := by
  refine ⟨.attemptFrom (fun _ ↦ h.routine) (fun n delay ↦ ?_) _ _ _⟩
  refine (Routine.Within.command (hdisplay n delay)).bind fun _ _ ↦ ?_
  exact (Routine.Within.command (hsleep _)).mono fun _ _ ↦ trivial

private theorem Within.retried {options : RetryOptions} {attempt : Action Unit}
    {post : Unit → Prop} (h : Within s f.Covers ActionError.IsOwn attempt post) :
    Within s f.Covers ActionError.IsOwn (Action.withRetries options attempt) post :=
  h.withRetries
    (fun _ _ ↦ .of_none (Command.announced?_of_head? (by simp [Retry.line])) rfl rfl rfl)
    fun _ ↦ .of_none rfl rfl rfl rfl

/-! ### Elements -/

open Action.Within

theorem click_within : Handler.Within .handing click := by
  intro σ s cx ps
  refine .bind .text fun selector _ ↦ ?_
  refine .bind .needPage fun page _ ↦ ?_
  refine .retried (.ite (fun _ ↦ ?_) fun _ ↦ ?_)
  · refine .bind (.onPage (fun _ ↦ trivial) rfl) fun _ _ ↦ ?_
    exact .onPage (fun _ ↦ trivial) rfl
  · refine .bind (.onPage (fun _ ↦ trivial) rfl) fun count _ ↦ ?_
    refine .ite (fun _ ↦ .throw_bind trivial) fun _ ↦ ?_
    cases ps.text? "text" with
    | none => exact .throw trivial
    | some text =>
      refine .bind (.onPage (fun _ ↦ trivial) rfl) fun texts _ ↦ ?_
      split
      · exact .onPage (fun _ ↦ trivial) rfl
      · exact .throw trivial

private theorem clickFrom_within (page : PageId) (selector : String) (count index : Nat) :
    Within s f.Covers ActionError.IsOwn (clickFrom page selector count index) (fun _ ↦ True) := by
  induction count generalizing index with
  | zero => exact .pure trivial
  | succ count ih =>
    refine .bind (.onPage (fun _ ↦ trivial) rfl) fun _ _ ↦ ?_
    refine .bind (.onPage (fun _ ↦ trivial) rfl) fun _ _ ↦ ?_
    exact ih (index + 1)

theorem clickAll_within : Handler.Within .handing clickAll := by
  intro σ s cx ps
  refine .bind .text fun selector _ ↦ ?_
  refine .bind .needPage fun page _ ↦ ?_
  refine .bind (.onPage (fun _ ↦ trivial) rfl) fun count _ ↦ ?_
  exact clickFrom_within page selector count 0

theorem scrollWaitClick_within : Handler.Within .handing scrollWaitClick := by
  intro σ s cx ps
  refine .bind .text fun selector _ ↦ ?_
  refine .bind .needPage fun page _ ↦ ?_
  refine .bind (.onPage (fun _ ↦ trivial) rfl) fun _ _ ↦ ?_
  refine .bind (.free rfl rfl rfl rfl) fun _ _ ↦ ?_
  exact .onPage (fun _ ↦ trivial) rfl

theorem typeText_within : Handler.Within .handing typeText := by
  intro σ s cx ps
  refine .bind .text fun selector _ ↦ ?_
  refine .bind .text fun text _ ↦ ?_
  refine .bind .needPage fun page _ ↦ ?_
  refine .retried (.bind (.display (by simp)) fun _ _ ↦ ?_)
  refine .bind (.onPage (fun _ ↦ trivial) rfl) fun _ _ ↦ ?_
  exact .onPage (fun _ ↦ trivial) rfl

theorem getElements_within : Handler.Within .handing getElements := by
  intro σ s cx ps
  refine .bind .text fun selector _ ↦ ?_
  refine .bind .needPage fun page _ ↦ ?_
  refine .bind (.onPage (fun _ ↦ trivial) rfl) fun texts _ ↦ ?_
  exact .put rfl

theorem getChildren_within : Handler.Within .handing getChildren := by
  intro σ s cx ps
  refine .bind .text fun parent _ ↦ ?_
  refine .bind .text fun child _ ↦ ?_
  refine .bind .needPage fun page _ ↦ ?_
  refine .bind (.onPage (fun _ ↦ trivial) rfl) fun groups _ ↦ ?_
  exact .put rfl

theorem elementExists_within : Handler.Within .handing elementExists := by
  intro σ s cx ps
  refine .bind .text fun selector _ ↦ ?_
  refine .bind .needPage fun page _ ↦ ?_
  refine .bind (.onPage (fun _ ↦ trivial) rfl) fun count _ ↦ ?_
  exact .put rfl

/-! ### Pages -/

theorem newPage_within : Handler.Within .handing newPage := by
  intro σ s cx ps
  refine .bind .text fun key _ ↦ ?_
  refine .bind (.free rfl rfl rfl rfl) fun reply _ ↦ ?_
  refine .bind (.orFail fun _ ↦ trivial) fun page _ ↦ ?_
  refine .bind (.free rfl rfl rfl rfl) fun _ _ ↦ ?_
  exact .display (by simp)

theorem closePage_within : Handler.Within .handing closePage := by
  intro σ s cx ps
  refine .bind .text fun key _ ↦ ?_
  refine .bind (.free rfl rfl rfl rfl) fun page _ ↦ ?_
  split
  · refine .bind (.free rfl rfl rfl rfl) fun reply _ ↦ ?_
    exact .bind (.orFail fun _ ↦ trivial) fun _ _ ↦ .display (by simp)
  · exact .display (by simp)

theorem switchPage_within : Handler.Within .handing switchPage := by
  intro σ s cx ps
  refine .bind .text fun key _ ↦ ?_
  refine .bind (.free rfl rfl rfl rfl) fun page _ ↦ ?_
  split
  · refine .bind (.onPage (fun _ ↦ trivial) rfl) fun _ _ ↦ ?_
    refine .bind (.free rfl rfl rfl rfl) fun _ _ ↦ ?_
    exact .display (by simp)
  · exact .display (by simp)

/-! ### Methods of pages -/

private theorem ask_within {page : PageId} {call : PageCall}
    (h : (Command.page page call).path? = none) :
    (PageMethod.ask page call).run.Within s f.Covers (fun _ ↦ True) :=
  (Routine.Within.command (.of_none rfl rfl rfl h)).mono fun _ _ ↦ trivial

private theorem tell_within {page : PageId} {call : PageCall}
    (h : (Command.page page call).path? = none) :
    (PageMethod.tell page call).run.Within s f.Covers (fun _ ↦ True) :=
  .run_bind (ask_within h) fun _ ↦ trivial

private theorem done_within {α : Type} {o : Except PageError α} :
    (ExceptT.mk (.done o) : PageMethod.Outcome α).run.Within s f.Covers (fun _ ↦ True) :=
  trivial

/-- No method of a page that is called by name takes a picture. -/
theorem pageMethod_within (page : PageId) (method : String) (inner : Option String)
    (args : List Json) :
    Within s f.Covers ActionError.IsOwn (ExceptT.lift (PageMethod.call page method inner args).run)
      (fun _ ↦ True) := by
  refine .lift ?_
  unfold PageMethod.call
  split
  · trivial
  split
  · exact .run_bind done_within fun url ↦ tell_within rfl
  · exact tell_within rfl
  · exact tell_within rfl
  · exact tell_within rfl
  · exact .run_bind (ask_within rfl) fun title ↦ trivial
  · exact .run_bind (ask_within rfl) fun url ↦ trivial
  · exact .run_bind (ask_within rfl) fun content ↦ trivial
  · exact .run_bind done_within fun script ↦ ask_within rfl
  · exact tell_within rfl
  · exact .run_bind done_within fun selector ↦ tell_within rfl
  · refine .run_bind ?_ fun _ ↦ trivial
    exact (Routine.Within.command (.of_none rfl rfl rfl rfl)).bind fun _ _ ↦ trivial
  · exact tell_within rfl
  · trivial

end WebRecipe.Action
