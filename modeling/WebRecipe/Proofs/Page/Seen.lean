import WebRecipe.Proofs.Page.Builtin
import WebRecipe.Proofs.Routine.Log

/-!
# Pages that an action knows

An action uses the page that it was given when it was prepared, and the pages that it has found in
the store since. Which looks at the store count is a parameter: an action that keeps to its page
needs none, an action that closes a page or switches to one looks for it under its label, and a
login looks at the active page whenever it performs an action.

## Main definitions

* `Deed.active?`, `Deed.labelled?`: what a look at the store found.
* `Routine.OnSeen`: a routine uses no other pages than those that it knows.

## Main results

* `Routine.MadeOf.onSeen`: an action that keeps to its page, apart from its parts.
* `Routine.OnSeen.goes`: what a routine knows after a log.
* `Engine.performed_onSeen`: what is known to the actions that a login performs.
-/

namespace WebRecipe

variable {σ α β : Type}

namespace Deed

/-- The page that was found as the active one. -/
def active? : Deed → Option PageId
  | ⟨.store .activePage, reply⟩ => reply
  | _ => none

/-- The page that was found under a label. -/
def labelled? : Deed → Option PageId
  | ⟨.store (.page _), reply⟩ => reply
  | ⟨.store (.removePage _), reply⟩ => reply
  | _ => none

end Deed

/-- A routine uses no other pages than those that it knows at the beginning and those that it has
found since. -/
def Routine.OnSeen (s : Surroundings σ) (finds : Deed → Option PageId) (seen : PageId → Prop) :
    Routine α → Prop
  | .done _ => True
  | .unfinished => True
  | .step c next =>
    (∀ q, c.page? = some q → seen q) ∧
      ∀ w : World σ, OnSeen s finds
        (fun q ↦ seen q ∨ finds ⟨c, (w.answer s c).1⟩ = some q) (next (w.answer s c).1)

namespace Routine.OnSeen

variable {s : Surroundings σ} {finds : Deed → Option PageId} {seen : PageId → Prop}

theorem mono {seen' : PageId → Prop} {r : Routine α} (h : r.OnSeen s finds seen)
    (hseen : ∀ q, seen q → seen' q) : r.OnSeen s finds seen' := by
  induction r generalizing seen seen' with
  | done a => trivial
  | unfinished => trivial
  | step c next ih =>
    exact ⟨fun q hq ↦ hseen q (h.1 q hq), fun w ↦ ih _ (h.2 w) fun q ↦ Or.imp_left (hseen q)⟩

theorem bind {r : Routine α} {f : α → Routine β} (h : r.OnSeen s finds seen)
    (hf : ∀ a, (f a).OnSeen s finds seen) : (r >>= f).OnSeen s finds seen := by
  induction r generalizing seen with
  | done a => exact hf a
  | unfinished => trivial
  | step c next ih => exact ⟨h.1, fun w ↦ ih _ (h.2 w) fun a ↦ (hf a).mono fun _ ↦ .inl⟩

/-- Two actions in a row. -/
theorem run_bind {x : Action α} {f : α → Action β} (h : x.run.OnSeen s finds seen)
    (hf : ∀ a, (f a).run.OnSeen s finds seen) : (x >>= f).run.OnSeen s finds seen := by
  rw [ExceptT.run_bind]
  refine h.bind fun r ↦ ?_
  cases r with
  | ok a => exact hf a
  | error e => trivial

/-- A command that is carried out on no page. -/
theorem command {c : Command} (h : c.page? = none) :
    (Action.command c).run.OnSeen s finds seen :=
  ⟨fun _ hq ↦ (nomatch h.symm.trans hq), fun _ ↦ trivial⟩

/-- What follows a look at the store knows what was found. -/
theorem access_bind {a : StoreAccess} {f : a.Reply → Action β}
    (hf : ∀ reply, (f reply).run.OnSeen s finds
      (fun q ↦ seen q ∨ finds ⟨.store a, reply⟩ = some q)) :
    (Action.access a >>= f).run.OnSeen s finds seen :=
  ⟨nofun, fun _ ↦ hf _⟩

/-- A routine after a log knows what was found in it. -/
theorem goes {r r' : Routine α} {log : Log} (h : r.OnSeen s finds seen) (hgoes : r.Goes log r')
    (hlog : ∀ d ∈ log, d.AnsweredIn s) :
    r'.OnSeen s finds fun q ↦ seen q ∨ ∃ d ∈ log, finds d = some q := by
  induction hgoes generalizing seen with
  | refl r => exact h.mono fun q ↦ .inl
  | @step c next reply log r _ ih =>
    obtain ⟨⟨w, hreply⟩, hlater⟩ := List.forall_mem_cons.1 hlog
    have hnext := h.2 w
    dsimp only at hreply
    rw [← hreply] at hnext
    refine (ih hnext hlater).mono fun q hq ↦ ?_
    rcases hq with (hseen | hfound) | ⟨d, hd, hfound⟩
    · exact .inl hseen
    · exact .inr ⟨_, List.mem_cons_self, hfound⟩
    · exact .inr ⟨d, List.mem_cons_of_mem _ hd, hfound⟩

end Routine.OnSeen

/-- What keeps to a page that is known uses no others than its parts. -/
theorem Routine.MadeOf.onSeen {s : Surroundings σ} {finds : Deed → Option PageId}
    {seen : PageId → Prop} {page : Option PageId} {part : Action Unit → Prop} {post : α → Prop}
    {r : Routine α} (h : r.MadeOf s (Command.OnPage page) part post)
    (hpage : ∀ q, page = some q → seen q) (hpart : ∀ x, part x → x.run.OnSeen s finds seen) :
    r.OnSeen s finds seen := by
  induction h generalizing seen with
  | done => trivial
  | unfinished => trivial
  | @step c next hc _ ih =>
    refine ⟨fun q hq ↦ ?_, fun w ↦ ih w (fun q hq ↦ .inl (hpage q hq))
      fun x hx ↦ (hpart x hx).mono fun _ ↦ .inl⟩
    cases c with
    | closePage p => exact hc.elim
    | page p call =>
      cases hq
      exact hpage q hc
    | _ => cases hq
  | part hx _ ih => exact (hpart _ hx).bind fun o ↦ ih o hpage hpart

/-! ### Actions on the table of pages -/

namespace Action

variable {s : Surroundings σ} {finds : Deed → Option PageId} {seen : PageId → Prop}

theorem newPage_onSeen (cx : Context) (ps : Members) : (newPage cx ps).run.OnSeen s finds seen := by
  refine .run_bind trivial fun key ↦ ?_
  refine .run_bind (.command rfl) fun reply ↦ ?_
  refine .run_bind trivial fun page ↦ ?_
  exact .run_bind (.command rfl) fun _ ↦ .command rfl

theorem closePage_onSeen (cx : Context) (ps : Members) :
    (closePage cx ps).run.OnSeen s Deed.labelled? seen := by
  refine .run_bind trivial fun key ↦ ?_
  refine .access_bind fun found ↦ ?_
  match found with
  | some page =>
    refine .run_bind ⟨fun q hq ↦ .inr hq, fun _ ↦ trivial⟩ fun reply ↦ ?_
    exact .run_bind trivial fun _ ↦ .command rfl
  | none => exact .command rfl

theorem switchPage_onSeen (cx : Context) (ps : Members) :
    (switchPage cx ps).run.OnSeen s Deed.labelled? seen := by
  refine .run_bind trivial fun key ↦ ?_
  refine .access_bind fun found ↦ ?_
  match found with
  | some page =>
    refine .run_bind (.run_bind ⟨fun q hq ↦ .inr hq, fun _ ↦ trivial⟩ fun _ ↦ trivial) fun _ ↦ ?_
    exact .run_bind (.command rfl) fun _ ↦ .command rfl
  | none => exact .command rfl

end Action

/-! ### Performing actions -/

namespace Engine

variable {e : Engine} {s : Surroundings σ} {finds : Deed → Option PageId} {seen : PageId → Prop}

/-- What follows the preparation of an action knows the page that was found as the active one. -/
theorem prepare_bind_onSeen {call : ActionCall} {f : Prepared → Action β}
    (hf : ∀ handler params page, e.registry.get? call.name = some handler →
      (f ⟨handler, params, page⟩).run.OnSeen s finds
        (fun q ↦ seen q ∨ finds ⟨.store .activePage, page⟩ = some q)) :
    (e.prepare call >>= f).run.OnSeen s finds seen := by
  rw [prepare_bind]
  refine .run_bind (.command rfl) fun _ ↦ ?_
  refine .run_bind (.command rfl) fun _ ↦ ?_
  refine .run_bind (.command rfl) fun resolved ↦ ?_
  refine .run_bind (.command rfl) fun _ ↦ ?_
  refine .run_bind trivial fun params ↦ ?_
  refine .run_bind (.command rfl) fun _ ↦ ?_
  cases hhandler : e.registry.get? call.name with
  | none => trivial
  | some handler => exact .access_bind fun page ↦ hf handler params page hhandler

variable (hreg : e.registry = Action.builtinRegistry)

include hreg

/-- Opening a page is carried out on no page. -/
theorem performWithin_newPage_onSeen {call : ActionCall} (hname : call.name = "newPage")
    (depth : Nat) : (e.performWithin depth call).run.OnSeen s finds seen := by
  cases depth with
  | zero => trivial
  | succ depth =>
    refine prepare_bind_onSeen fun handler params page hget ↦ ?_
    rw [hname, hreg] at hget
    cases hget
    exact Action.newPage_onSeen ⟨e.settings, page, e.performWithin depth, e.patience⟩ params

/-- What is known to an action that performs none but those of a login, and keeps to its page by
itself. -/
theorem performed_onSeen {call : ActionCall} (hname : call.name ∈ Action.Login.performed)
    (depth : Nat) : (e.performWithin depth call).run.OnSeen s Deed.active? seen := by
  cases depth with
  | zero => trivial
  | succ depth =>
    refine prepare_bind_onSeen fun handler params page hget ↦ ?_
    have huse := Action.pageUse_of_get? hreg hget
    generalize call.name = name at hname huse
    cases huse with
    | alone keeps => exact (keeps s _ _).routine.onSeen (fun q hq ↦ .inr hq) nofun
    | callMethod =>
      refine (Action.callMethod_steering.performing s _ _).routine.onSeen (fun q hq ↦ .inr hq) ?_
      rintro x ⟨inner, hinner, rfl⟩
      exact performWithin_newPage_onSeen hreg hinner depth
    | block hblock =>
      have hdisjoint : ∀ name ∈ Action.Login.performed, name ∉ Action.blockActions := by decide
      exact absurd hblock (hdisjoint name hname)
    | login => exact absurd hname (by decide)
    | newPage => exact absurd hname (by decide)
    | closePage => exact absurd hname (by decide)
    | switchPage => exact absurd hname (by decide)

end Engine
end WebRecipe
