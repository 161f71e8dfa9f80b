import WebRecipe.Action.Control
import WebRecipe.Action.Login
import WebRecipe.Proofs.Footprint.Pages
import WebRecipe.Proofs.Outcome

/-!
# Actions that perform others

Branches and loops fail as the actions in them do, and in their own words. The login reports any
failure of the actions that it performs in its own words. Calling a method of a page performs one
action, which opens a page.

## Main results

* `Action.branch_within`, `Action.countingLoop_within`, `Action.itemLoop_within`,
  `Action.conditionLoop_within`, `Action.callMethod_within`, `Action.login_within`.
-/

namespace WebRecipe.Action

variable {σ : Type} {s : Surroundings σ} {fails : ActionError → Prop}

open Action.Within

/-- An action fails in its own words, or as it may. -/
private theorem own {α : Type} {f : Footprint} {x : Action α} {post : α → Prop}
    (hown : ∀ e : ActionError, e.IsOwn → fails e)
    (h : Within s f.Covers ActionError.IsOwn x post) :
    Within s (fun _ ↦ True) fails x (fun _ ↦ True) :=
  (h.weaken (fun _ _ ↦ trivial) hown).mono fun _ _ ↦ trivial

/-- A command in an action of which only the failures count. -/
private theorem step {c : Command} :
    Within s (fun _ ↦ True) fails (Action.command c) (fun _ ↦ True) :=
  (Within.command trivial).mono fun _ _ ↦ trivial

/-! ### Branches and loops -/

/-- What is known of the actions nested in a parameter: reading them fails as it may, and so does
performing each of them. -/
structure BodyWithin (s : Surroundings σ) (fails : ActionError → Prop) (cx : Context)
    (action : String) (ps : Members) (key : String) : Prop where
  reading : ∀ e, ps.body action key = .error e → fails e
  performing : ∀ actions, ps.body action key = .ok actions → ∀ call ∈ actions,
    Within s (fun _ ↦ True) fails (cx.perform call) (fun _ ↦ True)

section Control

variable {cx : Context} {ps : Members} (hown : ∀ e : ActionError, e.IsOwn → fails e)

private theorem runBlock_within {actions : List ActionCall}
    (h : ∀ call ∈ actions, Within s (fun _ ↦ True) fails (cx.perform call) (fun _ ↦ True)) :
    Within s (fun _ ↦ True) fails (cx.runBlock actions) (fun _ ↦ True) := by
  induction actions with
  | nil => exact .pure trivial
  | cons call rest ih =>
    obtain ⟨hcall, hrest⟩ := List.forall_mem_cons.1 h
    exact .bind hcall fun _ _ ↦ ih hrest

private theorem showEnd_within {text : String} {block : Action Unit}
    (h : Within s (fun _ ↦ True) fails block (fun _ ↦ True)) :
    Within s (fun _ ↦ True) fails (showEnd text block) (fun _ ↦ True) :=
  .bind (.indented trivial trivial h) fun _ _ ↦ step

include hown

private theorem conditionOf_within {action : String} :
    Within s (fun _ ↦ True) fails (ofExcept (conditionOf action ps)) (fun _ ↦ True) := by
  refine .mono (.ofExcept fun e he ↦ hown e ?_) fun _ _ ↦ trivial
  refine fails_of_bind_eq_error (fun e ↦ Members.isOwn_of_text) (fun condition e he ↦ ?_) e he
  split at he
  · cases he
  · cases he
    trivial

private theorem conditionHolds_within {action condition : String} :
    Within s (fun _ ↦ True) fails (conditionHolds action condition) (fun _ ↦ True) :=
  .bind step fun _ _ ↦ .mono (.orFail fun _ ↦ hown _ trivial) fun _ _ ↦ trivial

theorem branch_within {action : String} {hasElse : Bool}
    (h : BodyWithin s fails cx action ps "actions")
    (helse : hasElse = true → BodyWithin s fails cx action ps "elseActions") :
    Within s (fun _ ↦ True) fails (branch action hasElse cx ps) (fun _ ↦ True) := by
  refine .bind (conditionOf_within hown) fun condition _ ↦ ?_
  refine .bind (.ofExcept h.reading) fun actions hactions ↦ ?_
  refine .bind (.ofExcept (fun e he ↦ ?_)) fun elseActions helseActions ↦ ?_
  · split at he
    case isTrue hasElse =>
      cases hbody : ps.body action "elseActions" with
      | ok block => rw [hbody] at he; cases he
      | error e' => rw [hbody] at he; cases he; exact (helse hasElse).reading _ hbody
    case isFalse => cases he
  refine .bind step fun _ _ ↦ ?_
  refine .bind (conditionHolds_within hown) fun holds _ ↦ ?_
  refine .ite (fun _ ↦ ?_) fun _ ↦ ?_
  · exact .bind step fun _ _ ↦ showEnd_within (runBlock_within (h.performing _ hactions))
  · refine .bind step fun _ _ ↦ ?_
    cases elseActions with
    | none => exact .pure trivial
    | some block =>
      split at helseActions
      case isTrue hasElse =>
        cases hbody : ps.body action "elseActions" with
        | error e => rw [hbody] at helseActions; cases helseActions
        | ok block =>
          rw [hbody] at helseActions
          cases helseActions
          exact showEnd_within (runBlock_within ((helse hasElse).performing _ hbody))
      case isFalse => cases helseActions

omit hown in
private theorem countingRounds_within {actions : List ActionCall} {limit step : Int}
    (h : ∀ call ∈ actions, Within s (fun _ ↦ True) fails (cx.perform call) (fun _ ↦ True))
    (count : Nat) (i : Int) :
    Within s (fun _ ↦ True) fails (countingRounds cx actions limit step count i)
      (fun _ ↦ True) := by
  induction count generalizing i with
  | zero => exact .pure trivial
  | succ count ih =>
    refine .bind Action.step fun _ _ ↦ ?_
    refine .bind Action.step fun _ _ ↦ ?_
    exact .bind (runBlock_within h) fun _ _ ↦ ih (i + step)

theorem countingLoop_within (h : BodyWithin s fails cx "for" ps "actions") :
    Within s (fun _ ↦ True) fails (countingLoop cx ps) (fun _ ↦ True) := by
  refine .bind (.ofExcept h.reading) fun actions hactions ↦ ?_
  refine .ite (fun _ ↦ .throw_bind (hown _ trivial)) fun _ ↦ ?_
  exact showEnd_within (countingRounds_within (h.performing _ hactions) _ _)

omit hown in
private theorem itemRounds_within {actions : List ActionCall} {key : String} {total : Nat}
    (h : ∀ call ∈ actions, Within s (fun _ ↦ True) fails (cx.perform call) (fun _ ↦ True))
    (n : Nat) (items : List Json) :
    Within s (fun _ ↦ True) fails (itemRounds cx actions key total n items) (fun _ ↦ True) := by
  induction items generalizing n with
  | nil => exact .pure trivial
  | cons item rest ih =>
    refine .bind step fun _ _ ↦ ?_
    refine .bind step fun _ _ ↦ ?_
    exact .bind (runBlock_within h) fun _ _ ↦ ih (n + 1)

theorem itemLoop_within (h : BodyWithin s fails cx "forEach" ps "actions") :
    Within s (fun _ ↦ True) fails (itemLoop cx ps) (fun _ ↦ True) := by
  refine .bind (own (f := .handing) hown .text) fun key _ ↦ ?_
  refine .bind (.ofExcept h.reading) fun actions hactions ↦ ?_
  refine .bind step fun value _ ↦ ?_
  split
  · exact showEnd_within (itemRounds_within (h.performing _ hactions) _ _)
  · exact .throw (hown _ trivial)
  · exact .throw (hown _ trivial)

private theorem conditionRounds_within {actions : List ActionCall} {condition : String}
    (h : ∀ call ∈ actions, Within s (fun _ ↦ True) fails (cx.perform call) (fun _ ↦ True))
    (patience : Nat) :
    Within s (fun _ ↦ True) fails (conditionRounds cx actions condition patience)
      (fun _ ↦ True) := by
  induction patience with
  | zero => exact .unfinished
  | succ patience ih =>
    refine .bind (conditionHolds_within hown) fun holds _ ↦ ?_
    refine .ite (fun _ ↦ ?_) fun _ ↦ .pure trivial
    exact .bind (runBlock_within h) fun _ _ ↦ ih

theorem conditionLoop_within (h : BodyWithin s fails cx "while" ps "actions") :
    Within s (fun _ ↦ True) fails (conditionLoop cx ps) (fun _ ↦ True) := by
  refine .bind (conditionOf_within hown) fun condition _ ↦ ?_
  refine .bind (.ofExcept h.reading) fun actions hactions ↦ ?_
  exact showEnd_within (conditionRounds_within hown (h.performing _ hactions) _)

/-! ### Methods of pages -/

theorem callMethod_within
    (hnew : ∀ w : World σ, Within s (fun _ ↦ True) fails
      (cx.invoke "newPage" [("pageKey", .str (w.answer s .freshId).1)]) (fun _ ↦ True)) :
    Within s (fun _ ↦ True) fails (callMethod cx ps) (fun _ ↦ True) := by
  refine .bind (own (f := .handing) hown .text) fun method _ ↦ ?_
  refine .bind step fun _ _ ↦ ?_
  split
  · refine .bind (.command trivial) fun key hkey ↦ ?_
    obtain ⟨w, rfl⟩ := hkey
    exact hnew w
  · refine .bind (own (f := .handing) hown .needPage) fun page _ ↦ ?_
    refine .bind (.lift (.any _)) fun outcome _ ↦ ?_
    split
    · exact step
    · exact step

end Control

/-! ### Logging in -/

namespace Login

variable {f : Footprint}

theorem ofParams_within {ps : Members} :
    Within s f.Covers ActionError.IsOwn (ofExcept (ofParams ps)) (fun _ ↦ True) := by
  have htext (key : String) (e : ActionError) : ps.text "login" key = .error e → e.IsOwn :=
    Members.isOwn_of_text
  refine .mono (.ofExcept ?_) fun _ _ ↦ trivial
  refine fails_of_bind_eq_error (htext _) fun url ↦ ?_
  refine fails_of_bind_eq_error (htext _) fun usernameSelector ↦ ?_
  refine fails_of_bind_eq_error (htext _) fun username ↦ ?_
  refine fails_of_bind_eq_error (htext _) fun passwordSelector ↦ ?_
  refine fails_of_bind_eq_error (htext _) fun password ↦ ?_
  refine fails_of_bind_eq_error (htext _) fun submitSelector ↦ ?_
  exact nofun

theorem restore_within {page : PageId} {cache : String} {name : Option String} :
    Within s (Footprint.Covers .touching) ActionError.IsOwn (restore page cache name)
      (fun _ ↦ True) := by
  refine .bind (.pathExists trivial) fun found _ ↦ ?_
  refine .ite (fun _ ↦ ?_) fun _ ↦ .pure trivial
  refine .bind (.display (by simp)) fun _ _ ↦ ?_
  refine .bind (.file trivial) fun text _ ↦ ?_
  refine .bind (.free rfl rfl rfl rfl) fun now _ ↦ ?_
  refine .ite (fun _ ↦ ?_) fun _ ↦ ?_
  · refine .bind (.onPage (fun _ ↦ trivial) rfl) fun _ _ ↦ ?_
    exact .bind (.display (by simp)) fun _ _ ↦ .pure trivial
  · refine .bind (.file trivial) fun _ _ ↦ ?_
    exact .bind (.display (by simp)) fun _ _ ↦ .pure trivial

theorem awaitVisible_within {page : PageId} {selector : String} {timeout : Nat} :
    Within s f.Covers ActionError.IsOwn (awaitVisible page selector timeout) (fun _ ↦ True) :=
  .bind (.onPage (fun _ ↦ trivial) rfl) fun _ _ ↦ .pure trivial

end Login

/-- The login fails in its own words, whatever the actions that it performs do. -/
theorem login_within {cx : Context} {ps : Members} :
    Within s (fun _ ↦ True) ActionError.IsOwn (login cx ps) (fun _ ↦ True) := by
  have hown (e : ActionError) (he : e.IsOwn) : e.IsOwn := he
  refine .bind (own hown (f := .handing) Login.ofParams_within) fun login _ ↦ ?_
  refine .bind (own hown (f := .handing) .needPage) fun page _ ↦ ?_
  refine .withRetries (fun _ _ ↦ trivial) (fun _ ↦ trivial) (.indented trivial trivial ?_)
  have hbase : Within s (fun _ ↦ True) ActionError.IsOwn (getText Key.baseDir) (fun _ ↦ True) :=
    .bind step fun _ _ ↦ .pure trivial
  refine .bind hbase fun base _ ↦ ?_
  split
  · exact .throw trivial
  · refine .bind (own hown Login.restore_within) fun restored _ ↦ ?_
    refine .ite (fun _ ↦ .pure trivial) fun _ ↦ ?_
    refine .bind (.lift (.any _)) fun outcome _ ↦ ?_
    exact .mono (.orFail fun _ ↦ trivial) fun _ _ ↦ trivial

end WebRecipe.Action
