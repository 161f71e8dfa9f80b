import WebRecipe.Proofs.Page.Custody
import WebRecipe.Proofs.Page.Use
import WebRecipe.Proofs.Resolving

/-!
# What a page is asked

The calls of pages that a routine makes, in their order, when it has the world for itself. What a row
of actions asks is what the first one asks and then what the others ask; most actions ask nothing, and
so does the preparation of any action.

## Main definitions

* `Routine.pageCalls`: the calls of pages that a routine makes.
* `Routine.Makes`: the calls that a routine makes, its result and the world after it.
* `Surroundings.Answers`: calls of a page that succeed when they are made in a row.
* `Action.Delivers`: an action that makes certain calls and succeeds if the calls do.

## Main results

* `Routine.Makes.bind`, `Action.Delivers.bind`: what actions in a row ask.
* `Action.makes_withRetries`: what an action asks that is not tried again.
* `Engine.delivers_performWithin`: what an action asks that is resolved.
-/

namespace WebRecipe

variable {σ α β : Type}

/-! ### Calls of a routine -/

/-- The call of a page that a command is. -/
def Command.pageCall? : Command → Option (PageId × PageCall)
  | page p c => some (p, c)
  | _ => none

namespace Routine

/-- The calls of pages that a routine makes that has the world for itself, in order. -/
def pageCalls (s : Surroundings σ) (w : World σ) : Routine α → List (PageId × PageCall)
  | done _ => []
  | unfinished => []
  | step c next => c.pageCall?.toList ++ pageCalls s (w.answer s c).2 (next (w.answer s c).1)

/-- A routine that has the world for itself makes calls of pages, comes to a result and leaves a
world. -/
structure Makes (s : Surroundings σ) (w : World σ) (r : Routine α)
    (calls : List (PageId × PageCall)) (a : α) (w' : World σ) : Prop where
  calls_eq : r.pageCalls s w = calls
  run_eq : r.run s w = (some a, w')

variable {s : Surroundings σ} {w w' w'' : World σ} {r : Routine α} {f : α → Routine β}
  {calls calls' : List (PageId × PageCall)} {a : α} {b : β}

/-- After the calls of the first of two routines the second one makes its own. -/
theorem pageCalls_bind (h : r.Makes s w calls a w') (f : α → Routine β) :
    (r >>= f).pageCalls s w = calls ++ (f a).pageCalls s w' := by
  obtain ⟨rfl, hrun⟩ := h
  induction r generalizing w with
  | done b =>
    cases hrun
    rfl
  | unfinished => cases hrun
  | step c next ih =>
    rw [step_bind, pageCalls, pageCalls, ih _ hrun, List.append_assoc]

/-- Of two routines in a row the first one makes its calls first. -/
theorem pageCalls_prefix_bind (r : Routine α) (f : α → Routine β) :
    r.pageCalls s w <+: (r >>= f).pageCalls s w := by
  induction r generalizing w with
  | done => exact List.nil_prefix
  | unfinished => exact List.nil_prefix
  | step c next ih => exact (List.prefix_append_right_inj _).2 (ih _)

/-- A routine that makes no calls adds none to those of the one before it. -/
theorem pageCalls_bind_of_silent (r : Routine α) {f : α → Routine β}
    (hf : ∀ a (w : World σ), (f a).pageCalls s w = []) :
    (r >>= f).pageCalls s w = r.pageCalls s w := by
  induction r generalizing w with
  | done a => exact hf a w
  | unfinished => rfl
  | step c next ih => exact congrArg (c.pageCall?.toList ++ ·) (ih _)

/-- A routine that is given up is followed by nothing. -/
theorem bind_of_givenUp {f : α → Routine β} (h : r.run s w = (none, w')) :
    (r >>= f).pageCalls s w = r.pageCalls s w ∧ (r >>= f).run s w = (none, w') := by
  induction r generalizing w with
  | done => cases h
  | unfinished => exact ⟨rfl, congrArg (none, ·) (congrArg Prod.snd h)⟩
  | step c next ih => exact (ih _ h).imp_left (congrArg (c.pageCall?.toList ++ ·))

/-- Two routines in a row ask only what each of them asks. -/
theorem forall_pageCalls_bind {ask : PageId × PageCall → Prop}
    (hr : ∀ c ∈ r.pageCalls s w, ask c)
    (hf : ∀ a w', r.run s w = (some a, w') → ∀ c ∈ (f a).pageCalls s w', ask c) :
    ∀ c ∈ (r >>= f).pageCalls s w, ask c := by
  cases hrun : r.run s w with
  | mk o w' =>
    cases o with
    | none =>
      rw [(bind_of_givenUp hrun).1]
      exact hr
    | some a =>
      rw [pageCalls_bind ⟨rfl, hrun⟩]
      exact List.forall_mem_append.2 ⟨hr, hf a w' hrun⟩

theorem Makes.bind (h : r.Makes s w calls a w') (hf : (f a).Makes s w' calls' b w'') :
    (r >>= f).Makes s w (calls ++ calls') b w'' where
  calls_eq := by rw [pageCalls_bind h, hf.calls_eq]
  run_eq := (leads_of_run h.run_eq f).run_eq.trans hf.run_eq

theorem Makes.done (a : α) (w : World σ) : (Routine.done a).Makes s w [] a w :=
  ⟨rfl, rfl⟩

/-- A call of a page is made whether it succeeds or not. -/
theorem makes_page (s : Surroundings σ) (w : World σ) (page : PageId) (c : PageCall) :
    (Routine.command (.page page c)).Makes s w [(page, c)] (s.page page c w.rest).1
      { w with rest := (s.page page c w.rest).2 } :=
  ⟨rfl, rfl⟩

/-- A routine that performs no actions and carries out no call of a page makes none. -/
theorem pageCalls_of_madeOf {may : Command → Prop} {post : α → Prop}
    (h : r.MadeOf s may (fun _ ↦ False) post) (hmay : ∀ c, may c → c.pageCall? = none) :
    r.pageCalls s w = [] := by
  induction h generalizing w with
  | done => rfl
  | unfinished => rfl
  | step hc _ ih =>
    rw [pageCalls, hmay _ hc, ih w]
    rfl
  | part h => exact h.elim

end Routine

/-! ### Calls of an action -/

namespace Action

variable {s : Surroundings σ} {w w' w'' : World σ} {x : Action α} {f : α → Action β}
  {calls calls' : List (PageId × PageCall)}

theorem makes_bind {a : α} {o : Except ActionError β} (h : x.run.Makes s w calls (.ok a) w')
    (hf : (f a).run.Makes s w' calls' o w'') : (x >>= f).run.Makes s w (calls ++ calls') o w'' := by
  rw [ExceptT.run_bind]
  exact h.bind hf

theorem makes_bind_error {e : ActionError} (h : x.run.Makes s w calls (.error e) w') :
    (x >>= f).run.Makes s w calls (.error e) w' := by
  rw [ExceptT.run_bind, ← List.append_nil calls]
  exact h.bind (.done _ _)

/-- A command that is no call of a page makes none. -/
theorem makes_command {c : Command} (h : c.pageCall? = none) :
    (command c).run.Makes s w [] (.ok (w.answer s c).1) (w.answer s c).2 := by
  refine ⟨?_, rfl⟩
  have hcalls : (command c).run.pageCalls s w = c.pageCall?.toList ++ [] := rfl
  rw [hcalls, h]
  rfl

/-- The outcome of a call is put in the words of an action. -/
theorem makes_onPage (s : Surroundings σ) (w : World σ) (page : PageId) (c : PageCall)
    (toError : PageError → ActionError) :
    (onPage page c toError).run.Makes s w [(page, c)] ((s.page page c w.rest).1.mapError toError)
      { w with rest := (s.page page c w.rest).2 } :=
  ⟨rfl, rfl⟩

/-- A call of the file system asks no page. -/
theorem makes_file {c : FileCall} {reply : c.Reply} {fs : FileSystem} (action operation : String)
    (h : c.answer w.files = (.ok reply, fs)) :
    (file action operation c).run.Makes s w [] (.ok reply) { w with files := fs } := by
  have hmakes : (file action operation c).run.Makes s w []
      ((c.answer w.files).1.mapError (.file action operation c.path))
      { w with files := (c.answer w.files).2 } :=
    ⟨rfl, rfl⟩
  rwa [h] at hmakes

/-- One block deeper an action makes the calls that it makes. -/
theorem makes_indented {o : Except ActionError α} (h : x.run.Makes s w.deeper calls o w') :
    (indented x).run.Makes s w calls o w'.shallower := by
  have hrest : (Routine.step (.store .indentOut) fun _ ↦ .done o).Makes s w' [] o w'.shallower :=
    ⟨rfl, rfl⟩
  have hbody := h.bind (f := fun o ↦ .step (.store .indentOut) fun _ ↦ .done o) hrest
  rw [List.append_nil] at hbody
  rw [run_indented]
  exact ⟨hbody.calls_eq, hbody.run_eq⟩

/-- One block deeper an action makes the calls that it makes, whether it ends or not. -/
theorem pageCalls_indented (s : Surroundings σ) (w : World σ) (x : Action α) :
    (indented x).run.pageCalls s w = x.run.pageCalls s w.deeper := by
  rw [run_indented]
  exact Routine.pageCalls_bind_of_silent _ fun _ _ ↦ rfl

/-- What is tried again begins with the first attempt, and ends with it unless that fails for a
passing cause. -/
theorem exists_withRetries_eq (options : RetryOptions) (x : Action Unit) :
    ∃ f : Except ActionError Unit → Routine (Except ActionError Unit),
      (withRetries options x).run = x.run >>= f ∧
        ∀ o, (∀ e, o = .error e → isPassing e.message = false) → f o = .done o := by
  have hrun : (withRetries options x).run = Retry.attemptFrom options (fun _ ↦ x.run)
      (fun e ↦ isPassing e.message) _ 0 options.initialDelay (options.maxAttempts - 1) :=
    rfl
  rw [hrun]
  cases options.maxAttempts - 1 with
  | zero => exact ⟨.done, (Routine.bind_done _).symm, fun _ _ ↦ rfl⟩
  | succ more =>
    refine ⟨_, rfl, fun o ho ↦ ?_⟩
    cases o with
    | ok a => rfl
    | error e =>
      exact if_neg (Bool.eq_false_iff.1 (ho e rfl))

/-- The calls of a first attempt are made first. -/
theorem pageCalls_prefix_withRetries (options : RetryOptions) (x : Action Unit) :
    x.run.pageCalls s w <+: (withRetries options x).run.pageCalls s w := by
  obtain ⟨f, hrun, -⟩ := exists_withRetries_eq options x
  rw [hrun]
  exact Routine.pageCalls_prefix_bind _ f

/-- The calls of a first attempt that is not tried again are all. -/
theorem makes_withRetries {x : Action Unit} {o : Except ActionError Unit} (options : RetryOptions)
    (h : x.run.Makes s w calls o w') (hlasting : ∀ e, o = .error e → isPassing e.message = false) :
    (withRetries options x).run.Makes s w calls o w' := by
  obtain ⟨f, hrun, hf⟩ := exists_withRetries_eq options x
  have hrest : (f o).Makes s w' [] o w' := by
    rw [hf o hlasting]
    exact .done o w'
  rw [hrun, ← List.append_nil calls]
  exact h.bind hrest

/-- A first attempt that does not fail for a passing cause is all. -/
theorem withRetries_of_lasting {x : Action Unit} (options : RetryOptions)
    (hlasting : ∀ e w', x.run.run s w = (some (.error e), w') → isPassing e.message = false) :
    (withRetries options x).run.pageCalls s w = x.run.pageCalls s w ∧
      (withRetries options x).run.run s w = x.run.run s w := by
  cases hx : x.run.run s w with
  | mk o w' =>
    cases o with
    | none =>
      obtain ⟨f, hrun, -⟩ := exists_withRetries_eq options x
      rw [hrun]
      exact Routine.bind_of_givenUp hx
    | some o =>
      have hmakes := makes_withRetries options ⟨rfl, hx⟩ fun e he ↦ hlasting e w' (he ▸ hx)
      exact ⟨hmakes.calls_eq, hmakes.run_eq⟩

/-- What is tried again asks only what its attempts ask, where each of them leaves the world as the
next one wants it. -/
theorem forall_pageCalls_withRetries {ask : PageId × PageCall → Prop} {x : Action Unit}
    {options : RetryOptions} {I : Nat → World σ → Prop} (hI : I 0 w)
    (hask : ∀ n w, n < options.maxAttempts → I n w → ∀ c ∈ x.run.pageCalls s w, ask c)
    (hkeeps : ∀ n w o w', n < options.maxAttempts → I n w → x.run.run s w = (some o, w') →
      I (n + 1) w')
    (hdisplay : ∀ n w text, I n w → I n (w.showing text))
    (hsleep : ∀ n (w : World σ) ms, I n w → I n { w with clock := w.clock + ms })
    (hattempts : 0 < options.maxAttempts) :
    ∀ c ∈ (withRetries options x).run.pageCalls s w, ask c := by
  have hrun : (withRetries options x).run = Retry.attemptFrom options (fun _ ↦ x.run)
      (fun e ↦ isPassing e.message) _ 0 options.initialDelay (options.maxAttempts - 1) :=
    rfl
  rw [hrun]
  have hlast : 0 + (options.maxAttempts - 1) < options.maxAttempts := by omega
  generalize options.maxAttempts - 1 = more at hlast
  generalize options.initialDelay = delay
  generalize 0 = n at hI hlast
  induction more generalizing w n delay with
  | zero => exact hask n w hlast hI
  | succ more ih =>
    have hn : n < options.maxAttempts := by omega
    refine Routine.forall_pageCalls_bind (hask n w hn hI) fun o w' hx ↦ ?_
    cases o with
    | ok a => exact fun _ h ↦ absurd h List.not_mem_nil
    | error err =>
      show ∀ c ∈ (if isPassing err.message then _ else _ : Routine _).pageCalls s w', ask c
      split
      · exact ih _ (n + 1) (hsleep _ _ _ (hdisplay _ _ _ (hkeeps n w _ w' hn hI hx))) (by omega)
      · exact fun _ h ↦ absurd h List.not_mem_nil

end Action

/-! ### Calls that succeed -/

/-- Calls of a page succeed when they are made in a row. -/
def Surroundings.Answers (s : Surroundings σ) (page : PageId) : List PageCall → σ → Prop
  | [], _ => True
  | c :: later, rest => (s.page page c rest).1.isOk = true ∧
      s.Answers page later (s.page page c rest).2

instance Surroundings.decidableAnswers (s : Surroundings σ) (page : PageId) :
    ∀ calls rest, Decidable (s.Answers page calls rest)
  | [], _ => .isTrue trivial
  | c :: later, rest =>
    have := decidableAnswers s page later (s.page page c rest).2
    inferInstanceAs (Decidable (_ ∧ _))

/-- The first of calls that succeed has a reply. -/
theorem Surroundings.Answers.exists_reply {s : Surroundings σ} {page : PageId} {c : PageCall}
    {later : List PageCall} {rest : σ} (h : s.Answers page (c :: later) rest) :
    ∃ reply rest', s.page page c rest = (.ok reply, rest') ∧ s.Answers page later rest' := by
  obtain ⟨hok, hlater⟩ := h
  cases hreply : (s.page page c rest).1 with
  | ok reply => exact ⟨reply, _, Prod.ext hreply rfl, hlater⟩
  | error err =>
    rw [hreply] at hok
    cases hok

/-- An action makes certain calls of the page that is active and then succeeds, if these calls
succeed. The page is active afterwards, too. -/
structure Action.Delivers (s : Surroundings σ) (page : PageId) (x : Action α)
    (asked : List PageCall) : Prop where
  makes : ∀ (w : World σ) (later : List PageCall), w.store.activePage = some page →
    s.Answers page (asked ++ later) w.rest → ∃ a w',
      x.run.Makes s w (asked.map fun c ↦ (page, c)) (.ok a) w' ∧
      w'.store.activePage = some page ∧ s.Answers page later w'.rest

namespace Action.Delivers

variable {s : Surroundings σ} {page : PageId} {x : Action α} {f : α → Action β}
  {asked asked' : List PageCall}

theorem bind (h : Delivers s page x asked) (hf : ∀ a, Delivers s page (f a) asked') :
    Delivers s page (x >>= f) (asked ++ asked') := by
  refine ⟨fun w later hactive hanswers ↦ ?_⟩
  rw [List.append_assoc] at hanswers
  obtain ⟨a, w', hx, hactive', hanswers'⟩ := h.makes w _ hactive hanswers
  obtain ⟨b, w'', hfx, hactive'', hanswers''⟩ := (hf a).makes w' later hactive' hanswers'
  refine ⟨b, w'', ?_, hactive'', hanswers''⟩
  rw [List.map_append]
  exact makes_bind hx hfx

theorem pure (a : α) : Delivers s page (Pure.pure a) [] :=
  ⟨fun w _ hactive hanswers ↦ ⟨a, w, .done _ _, hactive, hanswers⟩⟩

theorem display (text : String) : Delivers s page (Action.display text) [] :=
  ⟨fun _ _ hactive hanswers ↦ ⟨_, _, makes_command rfl, hactive, hanswers⟩⟩

theorem put (key : String) (v : Json) : Delivers s page (Action.put key v) [] :=
  ⟨fun w _ hactive hanswers ↦
    ⟨_, _, makes_command rfl, (w.store.activePage_put key v).trans hactive, hanswers⟩⟩

/-- What follows an outcome that is known to be a success begins with its result. -/
theorem ofExcept_bind {o : Except ActionError α} {a : α} (h : o = .ok a)
    (hf : Delivers s page (f a) asked) : Delivers s page (Action.ofExcept o >>= f) asked := by
  subst h
  exact hf

/-- The page of a context is at hand if there is one. -/
theorem needPage_bind {cx : Context} {action : String} {f : PageId → Action β}
    (hpage : cx.page = some page) (hf : Delivers s page (f page) asked) :
    Delivers s page (Action.ofExcept (cx.needPage action) >>= f) asked := by
  refine ofExcept_bind ?_ hf
  rw [Context.needPage, hpage]

/-- A text that is given is at hand. -/
theorem text_bind {ps : Members} {action key text : String} {f : String → Action β}
    (htext : ps.get? key = some (.str text)) (hf : Delivers s page (f text) asked) :
    Delivers s page (Action.ofExcept (ps.text action key) >>= f) asked := by
  refine ofExcept_bind ?_ hf
  rw [Members.text, htext]
  rfl

theorem onPage (c : PageCall) (toError : PageError → ActionError) :
    Delivers s page (Action.onPage page c toError) [c] := by
  refine ⟨fun w later hactive hanswers ↦ ?_⟩
  obtain ⟨reply, rest, hreply, hlater⟩ := hanswers.exists_reply
  have hmakes := makes_onPage s w page c toError
  rw [hreply] at hmakes
  exact ⟨reply, _, hmakes, hactive, hlater⟩

/-- An action that succeeds is not tried again. -/
theorem withRetries {x : Action Unit} (options : RetryOptions) (h : Delivers s page x asked) :
    Delivers s page (Action.withRetries options x) asked := by
  refine ⟨fun w later hactive hanswers ↦ ?_⟩
  obtain ⟨a, w', hx, hactive', hlater⟩ := h.makes w later hactive hanswers
  exact ⟨a, w', makes_withRetries options hx nofun, hactive', hlater⟩

end Action.Delivers

/-! ### Calls of an action that is resolved -/

namespace Engine

variable {e : Engine} {s : Surroundings σ} {w w' w'' : World σ} {call : ActionCall} {p : Prepared}
  {depth : Nat}

/-- The preparation of an action asks nothing, and leads to the handler of its name. -/
theorem prepare_asksNothing (e : Engine) (s : Surroundings σ) (call : ActionCall) :
    Action.MadeOf s (·.pageCall? = none) (fun _ ↦ False) (e.prepare call)
      (fun p ↦ e.registry.get? call.name = some p.handler) := by
  refine .bind (.command rfl) fun _ _ ↦ ?_
  refine .bind (.command rfl) fun _ _ ↦ ?_
  refine .bind (.command rfl) fun resolved _ ↦ ?_
  refine .bind (.command rfl) fun _ _ ↦ ?_
  refine .bind .ofExcept fun ps _ ↦ ?_
  refine .bind (.command rfl) fun _ _ ↦ ?_
  split
  case h_1 => exact .throw
  case h_2 handler hget => exact .bind (.command rfl) fun _ _ ↦ .pure hget

theorem pageCalls_prepare (e : Engine) (s : Surroundings σ) (w : World σ) (call : ActionCall) :
    (e.prepare call).run.pageCalls s w = [] :=
  Routine.pageCalls_of_madeOf (e.prepare_asksNothing s call).routine fun _ h ↦ h

/-- An action that is resolved makes the calls that its handler makes. -/
theorem makes_performWithin {calls : List (PageId × PageCall)} {o : Except ActionError Unit}
    (hprepared : (e.prepare call).run.run s w = (some (.ok p), w'))
    (h : (p.handler (e.context depth p) p.params).run.Makes s w' calls o w'') :
    (e.performWithin (depth + 1) call).run.Makes s w calls o w'' :=
  Action.makes_bind ⟨pageCalls_prepare e s w call, hprepared⟩ h

/-- The calls of an action that is resolved are those of its handler. -/
theorem pageCalls_performWithin (hprepared : (e.prepare call).run.run s w = (some (.ok p), w')) :
    (e.performWithin (depth + 1) call).run.pageCalls s w =
      (p.handler (e.context depth p) p.params).run.pageCalls s w' := by
  rw [performWithin, ExceptT.run_bind,
    Routine.pageCalls_bind ⟨pageCalls_prepare e s w call, hprepared⟩]
  rfl

/-- An action whose parameters stay as they are, pass the check and suit its handler delivers what
the handler does. -/
theorem delivers_performWithin {page : PageId} {name : String} {ps : Members} {handler : Handler}
    {asked : List PageCall} (hplain : ∀ lookup, Placeholder.resolveMembers lookup ps = ps)
    (hchecked : Schema.validate name ps = .ok ps) (hget : e.registry.get? name = some handler)
    (h : ∀ cx : Context, cx.page = some page → Action.Delivers s page (handler cx ps) asked) :
    Action.Delivers s page (e.performWithin (depth + 1) ⟨name, some ps, true⟩) asked := by
  refine ⟨fun w later hactive hanswers ↦ ?_⟩
  have hprepared := run_prepare e s w ⟨name, some ps, true⟩
  rw [show ActionCall.resolvedIn ⟨name, some ps, true⟩ w.store = ps from hplain _] at hprepared
  dsimp only at hprepared
  rw [hchecked] at hprepared
  dsimp only at hprepared
  rw [hget, hactive] at hprepared
  obtain ⟨a, w', hmakes, hactive', hlater⟩ := (h (e.context depth ⟨handler, ps, some page⟩) rfl).makes
    ((w.showing (announcement ++ name)).putting Key.params (.obj ps)) later
    ((w.store.activePage_put _ _).trans hactive) hanswers
  exact ⟨a, w', makes_performWithin hprepared hmakes, hactive', hlater⟩

end Engine
end WebRecipe
