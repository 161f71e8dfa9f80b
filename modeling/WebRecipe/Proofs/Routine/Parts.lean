import WebRecipe.Action.Basic
import WebRecipe.Retry
import WebRecipe.World

/-!
# Actions made of parts

An action that performs others consists of commands of its own and of the actions that it performs,
each of which runs as a whole and may end in any way. What is known of the commands and of the parts
is said once for each action; whatever holds of commands and parts, and of routines in a row, then
holds of the action.

## Main definitions

* `Routine.MadeOf`, `Action.MadeOf`: a routine, and an action, is made of commands and parts.

## Main results

* `Action.MadeOf.bind`, `Action.MadeOf.indented`, `Action.MadeOf.attemptFrom`: what actions in a row
  are made of.
-/

namespace WebRecipe

variable {σ α β : Type}

/-- A routine carries out commands as allowed and runs actions as its parts, and every result is as
wanted. Nothing is known about how the parts end. -/
inductive Routine.MadeOf (s : Surroundings σ) (may : Command → Prop) (part : Action Unit → Prop)
    (post : α → Prop) : Routine α → Prop
  | done {a : α} (h : post a) : MadeOf s may part post (.done a)
  | unfinished : MadeOf s may part post .unfinished
  | step {c : Command} {next : c.Reply → Routine α} (h : may c)
      (hnext : ∀ w : World σ, MadeOf s may part post (next (w.answer s c).1)) :
      MadeOf s may part post (.step c next)
  | part {x : Action Unit} {f : Except ActionError Unit → Routine α} (h : part x)
      (hf : ∀ o, MadeOf s may part post (f o)) : MadeOf s may part post (x.run >>= f)

namespace Routine.MadeOf

variable {s : Surroundings σ} {may : Command → Prop} {part : Action Unit → Prop}

theorem bind {r : Routine α} {f : α → Routine β} {mid : α → Prop} {fin : β → Prop}
    (h : r.MadeOf s may part mid) (hf : ∀ a, mid a → (f a).MadeOf s may part fin) :
    (r >>= f).MadeOf s may part fin := by
  induction h with
  | done ha => exact hf _ ha
  | unfinished => exact .unfinished
  | step hc _ ih => exact .step hc ih
  | part hx _ ih =>
    rw [bind_assoc]
    exact .part hx ih

theorem mono {r : Routine α} {mid post : α → Prop} (h : r.MadeOf s may part mid)
    (hpost : ∀ a, mid a → post a) : r.MadeOf s may part post := by
  induction h with
  | done ha => exact .done (hpost _ ha)
  | unfinished => exact .unfinished
  | step hc _ ih => exact .step hc ih
  | part hx _ ih => exact .part hx ih

/-- More may be carried out, and more may be a part. -/
theorem weaken {may' : Command → Prop} {part' : Action Unit → Prop} {r : Routine α}
    {post : α → Prop} (h : r.MadeOf s may part post) (hmay : ∀ c, may c → may' c)
    (hpart : ∀ x, part x → part' x) : r.MadeOf s may' part' post := by
  induction h with
  | done ha => exact .done ha
  | unfinished => exact .unfinished
  | step hc _ ih => exact .step (hmay _ hc) ih
  | part hx _ ih => exact .part (hpart _ hx) ih

theorem command {c : Command} (h : may c) :
    (Routine.command c).MadeOf s may part (fun _ ↦ True) :=
  .step h fun _ ↦ .done trivial

/-- An action that is a part, with its outcome. -/
theorem performed {x : Action Unit} (h : part x) : x.run.MadeOf s may part (fun _ ↦ True) := by
  rw [← bind_done x.run]
  exact .part h fun _ ↦ .done trivial

/-- Two routines in a row that may fail, with nothing said of their results. -/
theorem run_bind {ε : Type} {x : ExceptT ε Routine α} {f : α → ExceptT ε Routine β}
    (h : x.run.MadeOf s may part (fun _ ↦ True))
    (hf : ∀ a, (f a).run.MadeOf s may part (fun _ ↦ True)) :
    (x >>= f).run.MadeOf s may part (fun _ ↦ True) := by
  rw [ExceptT.run_bind]
  refine h.bind fun r _ ↦ ?_
  cases r with
  | ok a => exact hf a
  | error e => exact .done trivial

theorem attemptFrom {ε : Type} {options : RetryOptions}
    {operation : Nat → Routine (Except ε α)} {passing : ε → Bool}
    {pause : Nat → Duration → Routine Unit} {post : Except ε α → Prop}
    (hop : ∀ n, (operation n).MadeOf s may part post)
    (hpause : ∀ n delay, (pause n delay).MadeOf s may part (fun _ ↦ True))
    (attempt : Nat) (delay : Duration) (more : Nat) :
    (Retry.attemptFrom options operation passing pause attempt delay more).MadeOf s may part
      post := by
  induction more generalizing attempt delay with
  | zero => exact hop attempt
  | succ more ih =>
    refine (hop attempt).bind fun outcome houtcome ↦ ?_
    cases outcome with
    | ok a => exact .done houtcome
    | error e =>
      show Routine.MadeOf s may part post (if passing e then _ else _)
      split
      · exact (hpause _ _).bind fun _ _ ↦ ih _ _
      · exact .done houtcome

end Routine.MadeOf

/-! ### Actions -/

/-- An action is made of commands as allowed and of parts, and its result is as wanted. -/
structure Action.MadeOf (s : Surroundings σ) (may : Command → Prop) (part : Action Unit → Prop)
    (x : Action α) (post : α → Prop) : Prop where
  routine : x.run.MadeOf s may part fun r ↦ ∀ a, r = .ok a → post a

namespace Action.MadeOf

variable {s : Surroundings σ} {may : Command → Prop} {part : Action Unit → Prop} {x : Action α}
  {f : α → Action β} {mid post : α → Prop} {fin : β → Prop}

theorem bind (h : MadeOf s may part x mid) (hf : ∀ a, mid a → MadeOf s may part (f a) fin) :
    MadeOf s may part (x >>= f) fin := by
  constructor
  rw [ExceptT.run_bind]
  refine h.routine.bind fun r hr ↦ ?_
  cases r with
  | ok a => exact (hf a (hr a rfl)).routine
  | error e => exact .done nofun

theorem mono (h : MadeOf s may part x mid) (hpost : ∀ a, mid a → post a) :
    MadeOf s may part x post :=
  ⟨h.routine.mono fun _ hr a ha ↦ hpost a (hr a ha)⟩

theorem pure {a : α} (h : post a) : MadeOf s may part (Pure.pure a) post :=
  ⟨.done fun _ ha ↦ by cases ha; exact h⟩

theorem throw {e : ActionError} : MadeOf s may part (MonadExcept.throw e : Action α) post :=
  ⟨.done nofun⟩

theorem throw_bind {e : ActionError} : MadeOf s may part (MonadExcept.throw e >>= f) fin := by
  have hthrow : MadeOf s may part (MonadExcept.throw e : Action α) (fun _ ↦ False) := throw
  exact hthrow.bind fun _ hfalse ↦ hfalse.elim

theorem ite {c : Prop} [Decidable c] {y : Action α} (hx : MadeOf s may part x post)
    (hy : MadeOf s may part y post) : MadeOf s may part (if c then x else y) post := by
  split
  · exact hx
  · exact hy

theorem unfinished : MadeOf s may part (Action.unfinished : Action α) post :=
  ⟨.unfinished⟩

theorem ofExcept {o : Except ActionError α} :
    MadeOf s may part (Action.ofExcept o) (fun a ↦ o = .ok a) :=
  ⟨.done fun _ ha ↦ ha⟩

theorem orFail {ε : Type} {toError : ε → ActionError} {o : Except ε α} :
    MadeOf s may part (Action.orFail toError o) (fun _ ↦ True) :=
  ofExcept.mono fun _ _ ↦ trivial

theorem lift {r : Routine α} (h : r.MadeOf s may part post) :
    MadeOf s may part (ExceptT.lift r) post := by
  constructor
  rw [ExceptT.run_lift, map_eq_pure_bind]
  exact h.bind fun a ha ↦ .done fun _ hb ↦ by cases hb; exact ha

theorem command {c : Command} (h : may c) :
    MadeOf s may part (Action.command c) (fun _ ↦ True) :=
  lift (.command h)

/-- An action that is a part. -/
theorem performed {x : Action Unit} (h : part x) : MadeOf s may part x (fun _ ↦ True) :=
  ⟨(Routine.MadeOf.performed h).mono fun _ _ _ _ ↦ trivial⟩

/-- An outcome that is looked at. -/
theorem outcome (h : MadeOf s may part x post) :
    MadeOf s may part (ExceptT.lift x.run) (fun r ↦ ∀ a, r = .ok a → post a) :=
  lift h.routine

theorem indented (hin : may (.store .indentIn)) (hout : may (.store .indentOut))
    (h : MadeOf s may part x post) : MadeOf s may part (Action.indented x) post := by
  refine .bind (.command hin) fun _ _ ↦ ?_
  refine .bind h.outcome fun outcome houtcome ↦ ?_
  refine .bind (.command hout) fun _ _ ↦ ?_
  exact ofExcept.mono houtcome

end Action.MadeOf
end WebRecipe
