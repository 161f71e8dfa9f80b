import WebRecipe.Action.Interaction
import WebRecipe.Proofs.Page.Custody
import WebRecipe.Proofs.Resolving
import WebRecipe.Proofs.Routine.Agreement
import WebRecipe.Proofs.Routine.Parts

/-!
# Runs that look alike

Two worlds look alike when they differ in the parameters of the action that was announced last, and
otherwise as far as their surroundings may differ. Two routines run alike when in any two such worlds
they come to the same result and leave worlds that look alike again. So a text by which two actions
differ does not come out of them.

Surroundings hide what is typed when they answer alike: to the same calls of a page, and also to the
one that types the one text and the one that types the other.

## Main definitions

* `World.Alike`: worlds that look alike.
* `Surroundings.Hides`: surroundings that do not tell apart two texts that are typed.
* `Routine.Alike`, `Action.Alike`: routines, and actions, that run alike.

## Main results

* `Routine.Alike.bind`, `Routine.Alike.attemptFrom`: routines in a row, and tried again.
* `Engine.performWithin_alike`: actions that are resolved.
-/

namespace WebRecipe

variable {σ α β : Type} {R : σ → σ → Prop}

/-! ### Worlds and surroundings -/

/-- Two worlds look alike: they have the same values but for the parameters of an action, the same
pages, files and lines, and the same time has passed. -/
structure World.Alike (R : σ → σ → Prop) (w w' : World σ) : Prop where
  values : ∀ key, key ≠ Key.params → w.store.get? key = w'.store.get? key
  pages : w.store.pages = w'.store.pages
  activePage : w.store.activePage = w'.store.activePage
  files : w.files = w'.files
  lines : w.lines = w'.lines
  clock : w.clock = w'.clock
  rest : R w.rest w'.rest

/-- Two answers are the same, and the states after them look alike. -/
def AlikeAnswers (R : σ → σ → Prop) (r r' : α × σ) : Prop :=
  r.1 = r'.1 ∧ R r.2 r'.2

theorem AlikeAnswers.ite {c : Prop} [Decidable c] {r r' q q' : α × σ} (h : AlikeAnswers R r r')
    (h' : AlikeAnswers R q q') : AlikeAnswers R (if c then r else q) (if c then r' else q') := by
  split
  · exact h
  · exact h'

/-- In states that look alike surroundings answer calls of a page alike, and so they do when the one
text is typed and when the other one is. The time of day is the same. -/
structure Surroundings.Hides (s : Surroundings σ) (R : σ → σ → Prop) (a b : String) : Prop where
  page : ∀ {r r' : σ}, R r r' → ∀ p c, AlikeAnswers R (s.page p c r) (s.page p c r')
  typed : ∀ {r r' : σ}, R r r' → ∀ p selector,
    AlikeAnswers R (s.page p (.typeText selector a) r) (s.page p (.typeText selector b) r')
  now : ∀ {r r' : σ}, R r r' → s.now r = s.now r'

namespace World.Alike

theorem refl (w : World σ) (h : R w.rest w.rest) : w.Alike R w :=
  ⟨fun _ _ ↦ rfl, rfl, rfl, rfl, rfl, rfl, h⟩

variable {w w' : World σ} (h : w.Alike R w')

include h

theorem indent_eq : w.store.indent = w'.store.indent := by
  rw [Store.indent, h.values _ (by decide), Store.indent]

/-- Lines look the same in worlds that look alike. -/
theorem showing (text : String) : (w.showing text).Alike R (w'.showing text) := by
  have hid : w.store.payloadId = w'.store.payloadId := by
    rw [Store.payloadId, Store.text?, h.values _ (by decide), Store.payloadId, Store.text?]
  refine ⟨h.values, h.pages, h.activePage, h.files, ?_, h.clock, h.rest⟩
  rw [World.showing, World.showing, World.withLine, World.withLine, h.lines, h.indent_eq, hid]

/-- The parameters may be replaced by different ones, and any other value by the same one. -/
theorem putting (key : String) {v v' : Json} (hv : key ≠ Key.params → v = v') :
    (w.putting key v).Alike R (w'.putting key v') := by
  refine ⟨fun other hother ↦ ?_, ?_, ?_, h.files, h.lines, h.clock, h.rest⟩
  · by_cases hkey : other = key
    · subst hkey
      obtain rfl := hv hother
      cases hview : Key.isPageView other with
      | false => exact (Store.get?_put_self hview v).trans (Store.get?_put_self hview v).symm
      | true => simpa [World.putting, Store.put, hview] using h.values other hother
    · exact (Store.get?_put_other hkey).trans
        ((h.values other hother).trans (Store.get?_put_other hkey).symm)
  · exact (w.store.pages_put _ _).trans (h.pages.trans (w'.store.pages_put _ _).symm)
  · exact (w.store.activePage_put _ _).trans (h.activePage.trans (w'.store.activePage_put _ _).symm)

theorem deeper : w.deeper.Alike R w'.deeper :=
  h.putting Key.indent fun _ ↦ congrArg (fun n ↦ Json.int (n + indentStep : Nat)) h.indent_eq

theorem shallower : w.shallower.Alike R w'.shallower :=
  h.putting Key.indent fun _ ↦ congrArg (fun n ↦ Json.int (n - indentStep : Nat)) h.indent_eq

end World.Alike

/-! ### Routines -/

/-- In worlds that look alike two routines come to the same result, if they come to one, and leave
worlds that look alike. -/
structure Routine.Alike (s : Surroundings σ) (R : σ → σ → Prop) (x y : Routine α) : Prop where
  runs : ∀ {w w' : World σ}, w.Alike R w' →
    (x.run s w).1 = (y.run s w').1 ∧ (x.run s w).2.Alike R (y.run s w').2

namespace Routine.Alike

variable {s : Surroundings σ} {x y : Routine α} {f g : α → Routine β}

theorem done (a : α) : Alike s R (.done a) (.done a) :=
  ⟨fun h ↦ ⟨rfl, h⟩⟩

theorem unfinished : Alike s R (.unfinished : Routine α) .unfinished :=
  ⟨fun h ↦ ⟨rfl, h⟩⟩

theorem bind (h : Alike s R x y) (hfg : ∀ a, Alike s R (f a) (g a)) :
    Alike s R (x >>= f) (y >>= g) := by
  refine ⟨fun {w w'} hw ↦ ?_⟩
  obtain ⟨hresult, hafter⟩ := h.runs hw
  rw [Routine.run_bind, Routine.run_bind]
  rcases hx : x.run s w with ⟨o, w₁⟩
  rcases hy : y.run s w' with ⟨o', w₁'⟩
  rw [hx, hy] at hresult hafter
  obtain rfl : o = o' := hresult
  cases o with
  | none => exact ⟨rfl, hafter⟩
  | some a => exact (hfg a).runs hafter

/-- Attempts that run alike do so when they are tried again, with the same pauses. -/
theorem attemptFrom {ε : Type} {options : RetryOptions} {x y : Nat → Routine (Except ε α)}
    {passing : ε → Bool} {pause : Nat → Duration → Routine Unit} (h : ∀ n, Alike s R (x n) (y n))
    (hpause : ∀ n delay, Alike s R (pause n delay) (pause n delay)) (attempt : Nat)
    (delay : Duration) (more : Nat) :
    Alike s R (Retry.attemptFrom options x passing pause attempt delay more)
      (Retry.attemptFrom options y passing pause attempt delay more) := by
  induction more generalizing attempt delay with
  | zero => exact h attempt
  | succ more ih =>
    refine (h attempt).bind fun o ↦ ?_
    cases o with
    | ok a => exact done _
    | error e =>
      show Alike s R (if passing e then _ else _) (if passing e then _ else _)
      split
      · exact (hpause _ _).bind fun _ ↦ ih _ _
      · exact done _

/-- A routine runs alike all of whose commands do, and which performs no actions. -/
theorem of_madeOf {post : α → Prop}
    (h : x.MadeOf s (fun c ↦ Alike s R (command c) (command c)) (fun _ ↦ False) post) :
    Alike s R x x := by
  induction h with
  | done => exact done _
  | unfinished => exact unfinished
  | @step c _ hc _ ih =>
    refine ⟨fun {w w'} hw ↦ ?_⟩
    obtain ⟨hreply, hafter⟩ := hc.runs hw
    have hnext := (ih w').runs hafter
    rw [run, run, show (w.answer s c).1 = (w'.answer s c).1 from Option.some.inj hreply]
    exact hnext
  | part hx => exact hx.elim

/-! ### Commands -/

/-- A command and another one that get the same reply and leave worlds that look alike. -/
private theorem of_answer {c : Command} (h : ∀ {w w' : World σ}, w.Alike R w' →
    (w.answer s c).1 = (w'.answer s c).1 ∧ (w.answer s c).2.Alike R (w'.answer s c).2) :
    Alike s R (Routine.command c) (Routine.command c) :=
  ⟨fun hw ↦ (h hw).imp_left (congrArg some)⟩

theorem display (text : String) :
    Alike s R (Routine.command (.display text)) (Routine.command (.display text)) :=
  of_answer fun hw ↦ ⟨rfl, hw.showing text⟩

theorem sleep (ms : Nat) : Alike s R (Routine.command (.sleep ms)) (Routine.command (.sleep ms)) :=
  of_answer fun hw ↦ ⟨rfl, ⟨hw.values, hw.pages, hw.activePage, hw.files, hw.lines,
    congrArg (· + ms) hw.clock, hw.rest⟩⟩

theorem file (c : FileCall) : Alike s R (Routine.command (.file c)) (Routine.command (.file c)) := by
  refine of_answer fun {w w'} hw ↦ ?_
  have hsame : c.answer w.files = c.answer w'.files := congrArg (c.answer ·) hw.files
  exact ⟨congrArg (fun r ↦ r.1) hsame, ⟨hw.values, hw.pages, hw.activePage,
    congrArg (fun r ↦ r.2) hsame, hw.lines, hw.clock, hw.rest⟩⟩

/-- A value other than the parameters is the same. -/
theorem get {key : String} (h : key ≠ Key.params) :
    Alike s R (Routine.command (.store (.get key))) (Routine.command (.store (.get key))) :=
  of_answer fun hw ↦ ⟨hw.values key h, hw⟩

theorem put (key : String) (v : Json) :
    Alike s R (Routine.command (.store (.put key v))) (Routine.command (.store (.put key v))) :=
  of_answer fun hw ↦ ⟨rfl, hw.putting key fun _ ↦ rfl⟩

theorem indentIn :
    Alike s R (Routine.command (.store .indentIn)) (Routine.command (.store .indentIn)) :=
  of_answer fun hw ↦ ⟨rfl, hw.deeper⟩

theorem indentOut :
    Alike s R (Routine.command (.store .indentOut)) (Routine.command (.store .indentOut)) :=
  of_answer fun hw ↦ ⟨rfl, hw.shallower⟩

variable {a b : String}

theorem now (hs : s.Hides R a b) : Alike s R (Routine.command .now) (Routine.command .now) :=
  of_answer fun hw ↦ ⟨hs.now hw.rest, hw⟩

theorem page (hs : s.Hides R a b) (p : PageId) (c : PageCall) :
    Alike s R (Routine.command (.page p c)) (Routine.command (.page p c)) := by
  refine of_answer fun hw ↦ ?_
  obtain ⟨hreply, hrest⟩ := hs.page hw.rest p c
  exact ⟨hreply, ⟨hw.values, hw.pages, hw.activePage, hw.files, hw.lines, hw.clock, hrest⟩⟩

end Routine.Alike

/-! ### Actions -/

/-- Two actions run alike: they fail alike, or else succeed alike. -/
def Action.Alike (s : Surroundings σ) (R : σ → σ → Prop) (x y : Action α) : Prop :=
  Routine.Alike s R x.run y.run

namespace Action.Alike

variable {s : Surroundings σ} {x y : Action α} {f g : α → Action β}

theorem bind (h : Alike s R x y) (hfg : ∀ a, Alike s R (f a) (g a)) :
    Alike s R (x >>= f) (y >>= g) := by
  rw [Alike, ExceptT.run_bind, ExceptT.run_bind]
  refine Routine.Alike.bind h fun o ↦ ?_
  cases o with
  | ok a => exact hfg a
  | error e => exact .done _

theorem ofExcept (o : Except ActionError α) : Alike s R (Action.ofExcept o) (Action.ofExcept o) :=
  .done o

/-- What follows outcomes that are known to be successes begins with their results. -/
theorem ofExcept_bind {o o' : Except ActionError α} {a a' : α} (h : o = .ok a) (h' : o' = .ok a')
    (hfg : Alike s R (f a) (g a')) :
    Alike s R (Action.ofExcept o >>= f) (Action.ofExcept o' >>= g) := by
  subst h
  subst h'
  exact hfg

theorem pure (a : α) : Alike s R (Pure.pure a) (Pure.pure a) :=
  ofExcept (.ok a)

theorem throw (e : ActionError) :
    Alike s R (MonadExcept.throw e : Action α) (MonadExcept.throw e) :=
  ofExcept (.error e)

theorem throw_bind (e : ActionError) :
    Alike s R (MonadExcept.throw e >>= f) (MonadExcept.throw e >>= f) :=
  ofExcept (.error e)

theorem unfinished : Alike s R (Action.unfinished : Action α) Action.unfinished :=
  Routine.Alike.unfinished

theorem ite {c : Prop} [Decidable c] {x' y' : Action α} (h : Alike s R x y)
    (h' : Alike s R x' y') : Alike s R (if c then x else x') (if c then y else y') := by
  split
  · exact h
  · exact h'

theorem lift {r r' : Routine α} (h : r.Alike s R r') :
    Alike s R (ExceptT.lift r : Action α) (ExceptT.lift r') := by
  rw [Alike, ExceptT.run_lift, ExceptT.run_lift, map_eq_pure_bind, map_eq_pure_bind]
  exact h.bind fun _ ↦ .done _

/-- Actions whose outcome is looked at. -/
theorem outcome (h : Alike s R x y) :
    Alike s R (ExceptT.lift x.run : Action (Except ActionError α)) (ExceptT.lift y.run) :=
  lift h

theorem display (text : String) : Alike s R (Action.display text) (Action.display text) :=
  lift (.display text)

theorem put (key : String) (v : Json) : Alike s R (Action.put key v) (Action.put key v) :=
  lift (.put key v)

/-- A text under another name than the one of the parameters is the same. -/
theorem getText {key : String} (h : key ≠ Key.params) :
    Alike s R (Action.getText key) (Action.getText key) :=
  bind (lift (.get h)) fun _ ↦ pure _

theorem tryFile (c : FileCall) : Alike s R (Action.tryFile c) (Action.tryFile c) :=
  lift (.file c)

theorem file (action operation : String) (c : FileCall) :
    Alike s R (Action.file action operation c) (Action.file action operation c) :=
  bind (tryFile c) fun _ ↦ ofExcept _

theorem pathExists (path : String) :
    Alike s R (Action.pathExists path) (Action.pathExists path) := by
  refine bind (tryFile _) fun reply ↦ ?_
  cases reply with
  | ok found => exact pure _
  | error e => exact pure _

theorem indented (h : Alike s R x y) : Alike s R (Action.indented x) (Action.indented y) :=
  bind (lift .indentIn) fun _ ↦ bind (outcome h) fun _ ↦ bind (lift .indentOut) fun _ ↦ ofExcept _

theorem withRetries {x y : Action Unit} (options : RetryOptions) (h : Alike s R x y) :
    Alike s R (Action.withRetries options x) (Action.withRetries options y) :=
  Routine.Alike.attemptFrom (fun _ ↦ h)
    (fun _ _ ↦ (Routine.Alike.display _).bind fun _ ↦ .sleep _) _ _ _

variable {a b : String}

theorem now (hs : s.Hides R a b) : Alike s R (Action.command .now) (Action.command .now) :=
  lift (.now hs)

theorem onPage (hs : s.Hides R a b) (p : PageId) (c : PageCall)
    (toError : PageError → ActionError) :
    Alike s R (Action.onPage p c toError) (Action.onPage p c toError) :=
  bind (lift (.page hs p c)) fun _ ↦ ofExcept _

/-- Typing the one text and the other runs alike where surroundings hide them. -/
theorem onPage_typeText (hs : s.Hides R a b) (p : PageId) (selector : String)
    (toError : PageError → ActionError) :
    Alike s R (Action.onPage p (.typeText selector a) toError : Action Unit)
      (Action.onPage p (.typeText selector b) toError : Action Unit) := by
  refine ⟨fun {w w'} hw ↦ ?_⟩
  obtain ⟨hreply, hrest⟩ := hs.typed hw.rest p selector
  refine ⟨?_, ⟨hw.values, hw.pages, hw.activePage, hw.files, hw.lines, hw.clock, hrest⟩⟩
  exact congrArg (fun o : Except PageError Unit ↦ some (o.mapError toError)) hreply

end Action.Alike

/-! ### Resolved actions -/

/-- Actions of a name run alike whose parameters stay as they are, if the check fails alike, and the
handler of the name runs alike with what it makes of the parameters. -/
theorem Engine.performWithin_alike {e : Engine} {s : Surroundings σ} {depth : Nat} {name : String}
    {awaited : Bool} {ps ps' : Members}
    (hplain : ∀ lookup, Placeholder.resolveMembers lookup ps = ps)
    (hplain' : ∀ lookup, Placeholder.resolveMembers lookup ps' = ps')
    (hfails : ∀ err, Schema.validate name ps = .error err ↔ Schema.validate name ps' = .error err)
    (hruns : ∀ qs qs' handler (cx : Context), Schema.validate name ps = .ok qs →
      Schema.validate name ps' = .ok qs' → e.registry.get? name = some handler →
      cx.perform = e.performWithin depth → Action.Alike s R (handler cx qs) (handler cx qs')) :
    Action.Alike s R (e.performWithin (depth + 1) ⟨name, some ps, awaited⟩)
      (e.performWithin (depth + 1) ⟨name, some ps', awaited⟩) := by
  refine ⟨fun {w w'} hw ↦ ?_⟩
  have hprepared := run_prepare e s w ⟨name, some ps, awaited⟩
  have hprepared' := run_prepare e s w' ⟨name, some ps', awaited⟩
  rw [show ActionCall.resolvedIn ⟨name, some ps, awaited⟩ w.store = ps from hplain _] at hprepared
  rw [show ActionCall.resolvedIn ⟨name, some ps', awaited⟩ w'.store = ps' from hplain' _]
    at hprepared'
  dsimp only at hprepared hprepared'
  have hannounced {v v' : Json} : ((w.showing (announcement ++ name)).putting Key.params v).Alike R
      ((w'.showing (announcement ++ name)).putting Key.params v') :=
    (hw.showing _).putting _ fun h ↦ absurd rfl h
  cases hchecked : Schema.validate name ps with
  | error err =>
    rw [hchecked] at hprepared
    rw [(hfails err).1 hchecked] at hprepared'
    have hfailed := Action.run_bind_error (f := e.dispatch (e.performWithin depth)) hprepared
    have hfailed' := Action.run_bind_error (f := e.dispatch (e.performWithin depth)) hprepared'
    rw [performWithin, performWithin, hfailed, hfailed']
    exact ⟨rfl, hannounced⟩
  | ok qs =>
    cases hchecked' : Schema.validate name ps' with
    | error err => cases hchecked.symm.trans ((hfails err).2 hchecked')
    | ok qs' =>
      rw [hchecked] at hprepared
      rw [hchecked'] at hprepared'
      dsimp only at hprepared hprepared'
      cases hget : e.registry.get? name with
      | none =>
        rw [hget] at hprepared hprepared'
        have hfailed := Action.run_bind_error (f := e.dispatch (e.performWithin depth)) hprepared
        have hfailed' := Action.run_bind_error (f := e.dispatch (e.performWithin depth)) hprepared'
        rw [performWithin, performWithin, hfailed, hfailed']
        exact ⟨rfl, hannounced⟩
      | some handler =>
        rw [hget] at hprepared hprepared'
        rw [← hw.activePage] at hprepared'
        rw [performWithin_of_prepared hprepared, performWithin_of_prepared hprepared']
        exact (hruns qs qs' handler _ hchecked hchecked' hget rfl).runs hannounced

end WebRecipe
