import WebRecipe.Action.Control
import WebRecipe.Proofs.Routine.Agreement
import WebRecipe.Proofs.Store

/-!
# Actions that have the world for themselves

An action that nobody interrupts goes from world to world. What it comes to is told by what its
parts come to, one after another: the first part that fails ends it, and so does the first one that
is given up.

What is nested in an action is reached on the way: the action leads to a world in which the nested
one is performed, and to what is left to do after it.

## Main definitions

* `World.showing`, `World.putting`, `World.deeper`, `World.shallower`: the worlds after commands.
* `Action.closed`: what a block with a line at its end comes to.
* `Routine.Leads`: a routine in a world leads to what is left of it in a later world.

## Main results

* `Action.run_bind`, `Action.run_showEnd`: what actions in a row and blocks come to.
* `Routine.leads_of_run`: a routine leads to what comes after its first part.
* `Context.exists_of_runBlock_error`: a block fails as the first of its actions that does.
-/

namespace WebRecipe

variable {σ α β : Type}

/-! ### Worlds -/

/-- What is put under a name leaves what is read under all others alone, views of the pages
included. -/
theorem Store.get?_put_other {st : Store} {key other : String} {v : Json} (h : other ≠ key) :
    (st.put key v).get? other = st.get? other := by
  cases hview : Key.isPageView other with
  | false => exact get?_put_of_ne hview h
  | true =>
    rw [put]
    split
    · rfl
    · rcases (Bool.or_eq_true _ _).mp hview with hpages | hactive
      · rw [eq_of_beq hpages]
        rfl
      · rw [eq_of_beq hactive]
        rfl

/-- Of two values put under a name the later one stays. -/
theorem Store.put_put (st : Store) (key : String) (v v' : Json) :
    (st.put key v).put key v' = st.put key v' := by
  have hset (ms : Members) : (ms.set key v).set key v' = ms.set key v' := by
    induction ms with
    | nil => simp only [Members.set, if_true]
    | cons m ms ih =>
      obtain ⟨k, u⟩ := m
      by_cases hk : k = key
      · simp only [Members.set, if_pos hk]
      · simp only [Members.set, if_neg hk, ih]
  cases hview : Key.isPageView key with
  | false => simp [put, hview, hset]
  | true => simp [put, hview]

namespace World

variable (w : World σ)

/-- The world with a line of output more, which is indented and marked as the store says. -/
def showing (text : String) : World σ :=
  w.withLine (Output.line w.store.indent w.store.payloadId text)

/-- The world with a value put under a name. -/
def putting (key : String) (v : Json) : World σ :=
  { w with store := w.store.put key v }

/-- The world one block deeper. -/
def deeper : World σ :=
  { w with store := w.store.indentIn }

/-- The world one block less deep. -/
def shallower : World σ :=
  { w with store := w.store.indentOut }

theorem putting_putting (key : String) (v v' : Json) :
    (w.putting key v).putting key v' = w.putting key v' :=
  congrArg (fun st ↦ { w with store := st }) (w.store.put_put key v v')

/-- The value that is handed on is found. -/
theorem input_putting (v : Json) : (w.putting Key.input v).store.input = some v :=
  Store.get?_put_self (by decide) v

theorem input_deeper : w.deeper.store.input = w.store.input :=
  Store.get?_put_other (by decide)

theorem input_shallower : w.shallower.store.input = w.store.input :=
  Store.get?_put_other (by decide)

end World

/-! ### Actions in a row -/

namespace Action

variable {s : Surroundings σ} {w w' : World σ} {x : Action α} {f : α → Action β}

/-- The second of two actions in a row runs in the world that the first one leaves, if that one
succeeds. -/
theorem run_bind (s : Surroundings σ) (w : World σ) (x : Action α) (f : α → Action β) :
    (x >>= f).run.run s w = match x.run.run s w with
      | (some (.ok a), w') => (f a).run.run s w'
      | (some (.error e), w') => (some (.error e), w')
      | (none, w') => (none, w') := by
  rw [ExceptT.run_bind, Routine.run_bind]
  rcases x.run.run s w with ⟨_ | ⟨_ | _⟩, _⟩ <;> rfl

theorem run_bind_ok {a : α} (h : x.run.run s w = (some (.ok a), w')) :
    (x >>= f).run.run s w = (f a).run.run s w' := by
  rw [run_bind, h]

theorem run_bind_error {e : ActionError} (h : x.run.run s w = (some (.error e), w')) :
    (x >>= f).run.run s w = (some (.error e), w') := by
  rw [run_bind, h]

/-- Two actions in a row succeed if both do. -/
theorem exists_of_run_bind {b : β} (h : (x >>= f).run.run s w = (some (.ok b), w')) :
    ∃ a u, x.run.run s w = (some (.ok a), u) ∧ (f a).run.run s u = (some (.ok b), w') := by
  rw [ExceptT.run_bind] at h
  obtain ⟨o, u, hx, hf⟩ := Routine.exists_of_run_bind h
  cases o with
  | ok a => exact ⟨a, u, hx, hf⟩
  | error e => cases hf

/-- What follows a command begins with its reply, and with the world after it. -/
theorem run_command_bind (s : Surroundings σ) (w : World σ) (c : Command)
    (f : c.Reply → Action β) :
    (command c >>= f).run.run s w = (f (w.answer s c).1).run.run s (w.answer s c).2 :=
  rfl

/-- A page call comes to what the surroundings answer, with an error in the words of the action. -/
theorem run_onPage (s : Surroundings σ) (w : World σ) (page : PageId) (c : PageCall)
    (toError : PageError → ActionError) :
    (onPage page c toError).run.run s w = (some ((s.page page c w.rest).1.mapError toError),
      { w with rest := (s.page page c w.rest).2 }) :=
  rfl

theorem run_onPage_ok {page : PageId} {c : PageCall} {reply : c.Reply} {rest : σ}
    (toError : PageError → ActionError) (h : s.page page c w.rest = (.ok reply, rest)) :
    (onPage page c toError).run.run s w = (some (.ok reply), { w with rest := rest }) := by
  rw [run_onPage, h]
  rfl

theorem run_onPage_error {page : PageId} {c : PageCall} {err : PageError} {rest : σ}
    (toError : PageError → ActionError) (h : s.page page c w.rest = (.error err, rest)) :
    (onPage page c toError).run.run s w =
      (some (.error (toError err)), { w with rest := rest }) := by
  rw [run_onPage, h]
  rfl

/-- What a block with a line at its end comes to, by what is done in it. -/
def closed (line : String) :
    Option (Except ActionError Unit) × World σ → Option (Except ActionError Unit) × World σ
  | (some (.ok ()), w) => (some (.ok ()), w.shallower.showing line)
  | (some (.error e), w) => (some (.error e), w.shallower)
  | (none, w) => (none, w)

/-- What is done one block deeper begins after a step in, and a step out follows its end. -/
theorem run_indented (x : Action α) :
    (indented x).run = .step (.store .indentIn) fun _ ↦
      x.run >>= fun outcome ↦ .step (.store .indentOut) fun _ ↦ .done outcome := by
  have hrest : (do let outcome ← ExceptT.lift x.run
                   access .indentOut
                   ofExcept outcome : Action α).run =
      x.run >>= fun outcome ↦ .step (.store .indentOut) fun _ ↦ .done outcome :=
    ExceptT.run_bind_lift _ _
  exact congrArg (fun r ↦ Routine.step (.store .indentIn) fun _ ↦ r) hrest

/-- An action succeeds one block deeper if it does. -/
theorem exists_of_run_indented {a : α} (h : (indented x).run.run s w = (some (.ok a), w')) :
    ∃ u, x.run.run s w.deeper = (some (.ok a), u) ∧ w' = u.shallower := by
  rw [run_indented] at h
  obtain ⟨outcome, u, hx, hend⟩ := Routine.exists_of_run_bind h
  cases hend
  exact ⟨u, hx, rfl⟩

/-- A block is run one step deeper. -/
theorem run_showEnd (s : Surroundings σ) (w : World σ) (line : String) (block : Action Unit) :
    (showEnd line block).run.run s w = closed line (block.run.run s w.deeper) := by
  have hindented : (indented block).run.run s w = match block.run.run s w.deeper with
      | (some o, w') => (some o, w'.shallower)
      | (none, w') => (none, w') := by
    rw [run_indented]
    refine (Routine.run_bind s w.deeper block.run _).trans ?_
    rcases block.run.run s w.deeper with ⟨_ | o, _⟩ <;> rfl
  rw [showEnd, run_bind, hindented]
  rcases block.run.run s w.deeper with ⟨_ | ⟨_ | ⟨⟩⟩, _⟩ <;> rfl

/-- A block leaves the value alone that was handed on last in it. -/
theorem input_closed {line : String} {r : Option (Except ActionError Unit) × World σ} :
    (closed line r).2.store.input = r.2.store.input := by
  rcases r with ⟨_ | ⟨_ | ⟨⟩⟩, w⟩
  · rfl
  · exact w.input_shallower
  · exact w.input_shallower

theorem closed_fst {line : String} {r : Option (Except ActionError Unit) × World σ} :
    (closed line r).1 = r.1 := by
  rcases r with ⟨_ | ⟨_ | ⟨⟩⟩, _⟩ <;> rfl

end Action

/-! ### What is reached on the way -/

namespace Routine

variable {s : Surroundings σ} {w w' w'' : World σ} {r r' r'' : Routine α}

/-- A routine that has the world for itself leads to what is left of it after some of its
commands. -/
inductive Leads (s : Surroundings σ) : Routine α → World σ → Routine α → World σ → Prop
  | refl (r : Routine α) (w : World σ) : Leads s r w r w
  | step {c : Command} {next : c.Reply → Routine α} {w w' : World σ} {r' : Routine α}
      (later : Leads s (next (w.answer s c).1) (w.answer s c).2 r' w') :
      Leads s (.step c next) w r' w'

theorem Leads.of_eq (h : r = r') (w : World σ) : r.Leads s w r' w :=
  h ▸ .refl r w

theorem Leads.trans (h : r.Leads s w r' w') (h' : r'.Leads s w' r'' w'') :
    r.Leads s w r'' w'' := by
  induction h with
  | refl => exact h'
  | step _ ih => exact .step (ih h')

/-- A routine comes to what it leads to comes to. -/
theorem Leads.run_eq (h : r.Leads s w r' w') : r.run s w = r'.run s w' := by
  induction h with
  | refl => rfl
  | step _ ih => exact ih

theorem Leads.bind (h : r.Leads s w r' w') (f : α → Routine β) :
    (r >>= f).Leads s w (r' >>= f) w' := by
  induction h with
  | refl => exact .refl _ _
  | step _ ih => exact .step ih

/-- A routine that comes to a result leads to what is to be done with it. -/
theorem leads_of_run {a : α} (h : r.run s w = (some a, w')) (f : α → Routine β) :
    (r >>= f).Leads s w (f a) w' := by
  induction r generalizing w with
  | done b =>
    cases h
    exact .refl _ _
  | unfinished => cases h
  | step c next ih => exact .step (ih _ h)

end Routine

namespace Action

/-- An action that is begun in a world reaches another one in a later world. -/
def Reaches (s : Surroundings σ) (w : World σ) (x : Action α) (part : Action β) (w' : World σ) :
    Prop :=
  ∃ k : Except ActionError β → Routine (Except ActionError α), x.run.Leads s w (part.run >>= k) w'

namespace Reaches

variable {s : Surroundings σ} {w w' w'' : World σ} {γ : Type} {x : Action α} {f : α → Action β}
  {part : Action γ}

theorem refl (s : Surroundings σ) (x : Action α) (w : World σ) : Reaches s w x x w :=
  ⟨.done, by rw [Routine.bind_done]; exact .refl _ _⟩

/-- What the first of two actions reaches is reached by both in a row. -/
theorem bind (h : Reaches s w x part w') (f : α → Action β) : Reaches s w (x >>= f) part w' := by
  obtain ⟨k, hk⟩ := h
  refine ⟨fun o ↦ k o >>= ExceptT.bindCont f, ?_⟩
  rw [← Routine.bind_assoc]
  exact hk.bind (ExceptT.bindCont f)

/-- What the second of two actions reaches is reached by both in a row, if the first succeeds. -/
theorem after {a : α} (h : x.run.run s w = (some (.ok a), w')) (hf : Reaches s w' (f a) part w'') :
    Reaches s w (x >>= f) part w'' := by
  obtain ⟨k, hk⟩ := hf
  refine ⟨k, ?_⟩
  rw [ExceptT.run_bind]
  exact (Routine.leads_of_run h _).trans hk

/-- What is reached by what an action leads to is reached by the action. -/
theorem of_leads {y : Action α} (h : x.run.Leads s w y.run w') (hy : Reaches s w' y part w'') :
    Reaches s w x part w'' := by
  obtain ⟨k, hk⟩ := hy
  exact ⟨k, h.trans hk⟩

/-- What is reached one step deeper is reached in a block. -/
theorem showEnd {x : Action Unit} (h : Reaches s w.deeper x part w') (line : String) :
    Reaches s w (Action.showEnd line x) part w' := by
  obtain ⟨k, hk⟩ := h
  refine bind ⟨fun o ↦ k o >>= fun outcome ↦ .step (.store .indentOut) fun _ ↦ .done outcome, ?_⟩ _
  rw [run_indented, ← Routine.bind_assoc]
  exact .step (hk.bind _)

end Reaches
end Action

/-! ### Blocks -/

namespace Context

variable {s : Surroundings σ} {w w' : World σ}

theorem runBlock_append (cx : Context) (before after : List ActionCall) :
    cx.runBlock (before ++ after) = (do cx.runBlock before; cx.runBlock after) := by
  induction before with
  | nil => rfl
  | cons call before ih =>
    rw [List.cons_append, runBlock, runBlock, ih, bind_assoc]

/-- A block fails as the first of its actions that does, which is performed after those before it
have succeeded. -/
theorem exists_of_runBlock_error {cx : Context} {actions : List ActionCall} {err : ActionError}
    (h : (cx.runBlock actions).run.run s w = (some (.error err), w')) :
    ∃ before call after w₁, actions = before ++ call :: after ∧
      (cx.runBlock before).run.run s w = (some (.ok ()), w₁) ∧
      (cx.perform call).run.run s w₁ = (some (.error err), w') := by
  induction actions generalizing w with
  | nil => cases h
  | cons call rest ih =>
    rw [runBlock, Action.run_bind] at h
    cases hcall : (cx.perform call).run.run s w with
    | mk o w₁ =>
      rw [hcall] at h
      match o with
      | none => cases h
      | some (.error _) =>
        cases h
        exact ⟨[], call, rest, w, rfl, rfl, hcall⟩
      | some (.ok ()) =>
        obtain ⟨before, call', after, w₂, rfl, hbefore, hfails⟩ := ih h
        refine ⟨call :: before, call', after, w₂, rfl, ?_, hfails⟩
        rw [runBlock, Action.run_bind_ok hcall]
        exact hbefore

end Context
end WebRecipe
