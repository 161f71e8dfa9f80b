import WebRecipe.Action.Basic
import WebRecipe.World

/-!
# What holds at every moment of a routine

A routine that has the world for itself goes through moments: the world before a command, the
command, and the action that was announced last. A contract says what is assumed of every moment
and what is guaranteed at it as long as the assumption has held. Whether a routine fulfils a
contract is said along the tree of its commands, so that it is shown command by command, and a
routine made of two is shown by showing both.

## Main definitions

* `Moment`, `Routine.moments`: the moments of a routine in a world.
* `Contract`, `Contract.Ensures`: a routine guarantees what a contract says, and ends as it should.
* `Contract.Keeps`: an action that keeps what holds of the world.

## Main results

* `Contract.Ensures.sound`: what is shown along the tree holds of the moments and of the end of a
  run.
* `Contract.ensures_bind`, `Contract.Keeps.bind`: routines in a row.
-/

namespace WebRecipe

variable {σ α β : Type}

/-! ### Moments -/

/-- What the line that announces an action begins with. -/
def announcement : String := "Running action : "

namespace Command

/-- The name of the action that a command announces. -/
def announced? : Command → Option String
  | display text =>
    if announcement.toList.isPrefixOf text.toList then
      some (String.ofList (text.toList.drop announcement.toList.length))
    else none
  | _ => none

/-- The action that was announced last after a command, given the one that was before it. -/
def latest (c : Command) (author : Option String) : Option String :=
  c.announced?.or author

/-- The line that announces an action announces its name. -/
theorem announced?_announcement (name : String) :
    (display (announcement ++ name)).announced? = some name := by
  have hprefix := List.isPrefixOf_iff_prefix.2 (List.prefix_append announcement.toList name.toList)
  rw [announced?, String.toList_append, if_pos hprefix, List.drop_left, String.ofList_toList]

end Command

/-- A moment of a routine: the action that was announced last, the world, and the command that is
carried out next. -/
structure Moment (σ : Type) where
  author : Option String
  world : World σ
  command : Command

/-- The world after the command of a moment. -/
def Moment.after (s : Surroundings σ) (m : Moment σ) : World σ :=
  (m.world.answer s m.command).2

/-- The moments of a routine that has the world for itself, in order. -/
def Routine.moments (s : Surroundings σ) (author : Option String) (w : World σ) :
    Routine α → List (Moment σ)
  | done _ => []
  | unfinished => []
  | step c next =>
    let r := w.answer s c
    ⟨author, w, c⟩ :: moments s (c.latest author) r.2 (next r.1)

/-! ### Contracts -/

/-- What is assumed of every moment in some surroundings, and what is guaranteed at it. -/
structure Contract (σ : Type) where
  surroundings : Surroundings σ
  assumes : Moment σ → Prop
  guarantees : Moment σ → Prop

namespace Contract

variable (k : Contract σ)

/-- A routine guarantees what a contract says as long as its assumption holds, and if it ends then
with a result, an author and a world as wanted. -/
def Ensures (post : α → Option String → World σ → Prop) (author : Option String) (w : World σ) :
    Routine α → Prop
  | .done a => post a author w
  | .unfinished => True
  | .step c next =>
    k.assumes ⟨author, w, c⟩ →
      k.guarantees ⟨author, w, c⟩ ∧
        Ensures post (c.latest author) (w.answer k.surroundings c).2
          (next (w.answer k.surroundings c).1)

variable {k} {post : α → Option String → World σ → Prop} {author : Option String} {w : World σ}

/-- What is ensured of a routine holds of its moments, and of the end of its run. -/
theorem Ensures.sound {r : Routine α} (h : k.Ensures post author w r)
    (hassumes : ∀ m ∈ r.moments k.surroundings author w, k.assumes m) :
    (∀ m ∈ r.moments k.surroundings author w, k.guarantees m) ∧
      ∀ a w', r.run k.surroundings w = (some a, w') → ∃ author', post a author' w' := by
  induction r generalizing author w with
  | done a =>
    refine ⟨fun m hm ↦ absurd hm List.not_mem_nil, fun b w' hrun ↦ ?_⟩
    cases hrun
    exact ⟨author, h⟩
  | unfinished =>
    refine ⟨fun m hm ↦ absurd hm List.not_mem_nil, fun b w' hrun ↦ ?_⟩
    cases hrun
  | step c next ih =>
    rw [Routine.moments, List.forall_mem_cons] at hassumes
    obtain ⟨hnow, hlater⟩ := h hassumes.1
    obtain ⟨hmoments, hend⟩ := ih _ hlater hassumes.2
    refine ⟨?_, hend⟩
    rw [Routine.moments, List.forall_mem_cons]
    exact ⟨hnow, hmoments⟩

/-- What is wanted at the end may be weakened. -/
theorem Ensures.mono {post' : α → Option String → World σ → Prop} {r : Routine α}
    (h : k.Ensures post author w r) (hpost : ∀ a author w, post a author w → post' a author w) :
    k.Ensures post' author w r := by
  induction r generalizing author w with
  | done a => exact hpost a author w h
  | unfinished => trivial
  | step c next ih => exact fun hassumes ↦ (h hassumes).imp_right (ih _)

/-- The second of two routines in a row begins with what the first one leaves. -/
theorem ensures_bind {post : β → Option String → World σ → Prop} {r : Routine α}
    {f : α → Routine β} :
    k.Ensures post author w (r >>= f) ↔
      k.Ensures (fun a author w ↦ k.Ensures post author w (f a)) author w r := by
  induction r generalizing author w with
  | done a => rfl
  | unfinished => rfl
  | step c next ih => exact imp_congr_right fun _ ↦ and_congr_right fun _ ↦ ih _

/-! ### Keeping what holds -/

variable (k) in
/-- A routine keeps what holds of the author and the world. -/
structure Preserves (I : Option String → World σ → Prop) (r : Routine α) : Prop where
  ensures : ∀ author w, I author w → k.Ensures (fun _ author w ↦ I author w) author w r

namespace Preserves

variable {I : Option String → World σ → Prop}

theorem done {a : α} : k.Preserves I (.done a) :=
  ⟨fun _ _ hI ↦ hI⟩

theorem bind {r : Routine α} {f : α → Routine β} (h : k.Preserves I r)
    (hf : ∀ a, k.Preserves I (f a)) : k.Preserves I (r >>= f) := by
  constructor
  intro author w hI
  rw [ensures_bind]
  exact (h.ensures author w hI).mono fun a author w hw ↦ (hf a).ensures author w hw

/-- A command keeps what holds if it does so at every moment that the contract covers. -/
theorem command {c : Command}
    (h : ∀ author w, I author w → k.assumes ⟨author, w, c⟩ →
      k.guarantees ⟨author, w, c⟩ ∧ I (c.latest author) (w.answer k.surroundings c).2) :
    k.Preserves I (Routine.command c) :=
  ⟨fun author w hI hassumes ↦ h author w hI hassumes⟩

theorem run_lift {ε : Type} {r : Routine α} (h : k.Preserves I r) :
    k.Preserves I (ExceptT.lift r : ExceptT ε Routine α).run := by
  rw [ExceptT.run_lift, map_eq_pure_bind]
  exact h.bind fun _ ↦ done

end Preserves

/-! ### Actions -/

/-- The second of two actions in a row is reached when the first one succeeds. -/
theorem ensures_action_bind {post : Except ActionError β → Option String → World σ → Prop}
    {x : Action α} {f : α → Action β} :
    k.Ensures post author w (x >>= f).run ↔
      k.Ensures (fun r author w ↦ match r with
        | .ok a => k.Ensures post author w (f a).run
        | .error e => post (.error e) author w) author w x.run := by
  rw [ExceptT.run_bind, ensures_bind]
  constructor
  · refine fun h ↦ h.mono fun r author w hr ↦ ?_
    cases r <;> exact hr
  · refine fun h ↦ h.mono fun r author w hr ↦ ?_
    cases r <;> exact hr

variable (k) in
/-- An action keeps what holds of the author and the world, whether it succeeds or fails, and a
result is as wanted. -/
structure Keeps (I : Option String → World σ → Prop) (x : Action α) (post : α → Prop) : Prop where
  ensures : ∀ author w, I author w →
    k.Ensures (fun r author w ↦ I author w ∧ ∀ a, r = .ok a → post a) author w x.run

namespace Keeps

variable {I : Option String → World σ → Prop} {x : Action α} {f : α → Action β}
  {mid post : α → Prop} {fin : β → Prop}

/-- An action that keeps what holds is followed by what begins with it. -/
theorem ensures_bind (h : k.Keeps I x mid) (hI : I author w)
    {post : Except ActionError β → Option String → World σ → Prop}
    (hok : ∀ a author w, mid a → I author w → k.Ensures post author w (f a).run)
    (herror : ∀ e author w, I author w → post (.error e) author w) :
    k.Ensures post author w (x >>= f).run := by
  rw [ensures_action_bind]
  refine (h.ensures author w hI).mono fun r author w hr ↦ ?_
  cases r with
  | ok a => exact hok a author w (hr.2 a rfl) hr.1
  | error e => exact herror e author w hr.1

theorem bind (h : k.Keeps I x mid) (hf : ∀ a, mid a → k.Keeps I (f a) fin) :
    k.Keeps I (x >>= f) fin :=
  ⟨fun _ _ hI ↦ h.ensures_bind hI (fun a author w ha hw ↦ (hf a ha).ensures author w hw)
    fun _ _ _ hw ↦ ⟨hw, nofun⟩⟩

theorem mono (h : k.Keeps I x mid) (hpost : ∀ a, mid a → post a) : k.Keeps I x post :=
  ⟨fun author w hI ↦ (h.ensures author w hI).mono fun _ _ _ hr ↦
    ⟨hr.1, fun a ha ↦ hpost a (hr.2 a ha)⟩⟩

theorem pure {a : α} (h : post a) : k.Keeps I (Pure.pure a) post :=
  ⟨fun _ _ hI ↦ ⟨hI, fun _ ha ↦ by cases ha; exact h⟩⟩

theorem throw {e : ActionError} : k.Keeps I (MonadExcept.throw e : Action α) post :=
  ⟨fun _ _ hI ↦ ⟨hI, nofun⟩⟩

theorem throw_bind {e : ActionError} : k.Keeps I (MonadExcept.throw e >>= f) fin := by
  have hthrow : k.Keeps I (MonadExcept.throw e : Action α) (fun _ ↦ False) := throw
  exact hthrow.bind fun _ h ↦ h.elim

theorem ite {c : Prop} [Decidable c] {y : Action α} (hx : c → k.Keeps I x post)
    (hy : ¬ c → k.Keeps I y post) : k.Keeps I (if c then x else y) post := by
  split
  · exact hx ‹c›
  · exact hy ‹¬ c›

theorem unfinished : k.Keeps I (Action.unfinished : Action α) post :=
  ⟨fun _ _ _ ↦ trivial⟩

theorem ofExcept {o : Except ActionError α} :
    k.Keeps I (Action.ofExcept o) (fun a ↦ o = .ok a) :=
  ⟨fun _ _ hI ↦ ⟨hI, fun _ ha ↦ ha⟩⟩

theorem orFail {ε : Type} {toError : ε → ActionError} {o : Except ε α} :
    k.Keeps I (Action.orFail toError o) (fun a ↦ o = .ok a) := by
  refine ofExcept.mono fun a ha ↦ ?_
  cases o with
  | ok b => cases ha; rfl
  | error e => cases ha

theorem preserves (h : k.Keeps I x post) : k.Preserves I x.run :=
  ⟨fun author w hI ↦ (h.ensures author w hI).mono fun _ _ _ hr ↦ hr.1⟩

theorem of_preserves (h : k.Preserves I x.run) : k.Keeps I x (fun _ ↦ True) :=
  ⟨fun author w hI ↦ (h.ensures author w hI).mono fun _ _ _ hw ↦ ⟨hw, fun _ _ ↦ trivial⟩⟩

theorem lift {r : Routine α} (h : k.Preserves I r) :
    k.Keeps I (ExceptT.lift r) (fun _ ↦ True) :=
  of_preserves h.run_lift

/-- A command keeps what holds if it does so at every moment that the contract covers. -/
theorem command {c : Command} {post : c.Reply → Prop}
    (h : ∀ author w, I author w → k.assumes ⟨author, w, c⟩ →
      k.guarantees ⟨author, w, c⟩ ∧ I (c.latest author) (w.answer k.surroundings c).2 ∧
        post (w.answer k.surroundings c).1) :
    k.Keeps I (Action.command c) post := by
  constructor
  intro author w hI hassumes
  obtain ⟨hguarantees, hI', hpost⟩ := h author w hI hassumes
  exact ⟨hguarantees, hI', fun _ ha ↦ by cases ha; exact hpost⟩

end Keeps
end Contract
end WebRecipe
