import WebRecipe.Action.Basic
import WebRecipe.Proofs.Routine.Contract
import WebRecipe.Proofs.Routine.Log
import WebRecipe.Proofs.Store
import WebRecipe.Retry

/-!
# Footprints of actions

What an action may do, whoever else changes the world meanwhile: which commands it may carry out,
how it may fail, and what its result may be. This is said along the tree of its commands with an
arbitrary world before each of them, so that it holds of every log, and of every run.

Most actions have a footprint that says under which names they write and whether they touch files.
They announce no action, and fail in words of their own.

## Main definitions

* `Routine.Within`, `Action.Within`: a routine, and an action, keeps within bounds.
* `Footprint`, `Handler.Within`: the bounds of most actions.

## Main results

* `Routine.Within.ends`: the bounds hold of a log.
* `Action.Within.keeps`: what every command within the bounds keeps holds in a run.
-/

namespace WebRecipe

variable {σ α β : Type}

/-! ### Routines -/

/-- All commands that a routine may carry out are as allowed, whatever the world is like before each
of them, and so is every result. -/
def Routine.Within (s : Surroundings σ) (may : Command → Prop) (post : α → Prop) :
    Routine α → Prop
  | .done a => post a
  | .unfinished => True
  | .step c next => may c ∧ ∀ w : World σ, Within s may post (next (w.answer s c).1)

namespace Routine.Within

variable {s : Surroundings σ} {may : Command → Prop}

theorem bind {r : Routine α} {f : α → Routine β} {mid : α → Prop} {post : β → Prop}
    (h : r.Within s may mid) (hf : ∀ a, mid a → (f a).Within s may post) :
    (r >>= f).Within s may post := by
  induction r with
  | done a => exact hf a h
  | unfinished => trivial
  | step c next ih => exact ⟨h.1, fun w ↦ ih _ (h.2 w)⟩

theorem mono {r : Routine α} {mid post : α → Prop} (h : r.Within s may mid)
    (hpost : ∀ a, mid a → post a) : r.Within s may post := by
  induction r with
  | done a => exact hpost a h
  | unfinished => trivial
  | step c next ih => exact ⟨h.1, fun w ↦ ih _ (h.2 w)⟩

theorem weaken {may' : Command → Prop} {r : Routine α} {post : α → Prop}
    (h : r.Within s may post) (hmay : ∀ c, may c → may' c) : r.Within s may' post := by
  induction r with
  | done a => exact h
  | unfinished => trivial
  | step c next ih => exact ⟨hmay c h.1, fun w ↦ ih _ (h.2 w)⟩

theorem any (r : Routine α) : r.Within s (fun _ ↦ True) (fun _ ↦ True) := by
  induction r with
  | done a => trivial
  | unfinished => trivial
  | step c next ih => exact ⟨trivial, fun w ↦ ih _⟩

theorem command {c : Command} (h : may c) :
    (Routine.command c).Within s may (fun reply ↦ ∃ w : World σ, reply = (w.answer s c).1) :=
  ⟨h, fun w ↦ ⟨w, rfl⟩⟩

/-- Two routines in a row that may fail, with nothing said of their results. -/
theorem run_bind {ε : Type} {x : ExceptT ε Routine α} {f : α → ExceptT ε Routine β}
    (h : x.run.Within s may (fun _ ↦ True)) (hf : ∀ a, (f a).run.Within s may (fun _ ↦ True)) :
    (x >>= f).run.Within s may (fun _ ↦ True) := by
  rw [ExceptT.run_bind]
  refine h.bind fun r _ ↦ ?_
  cases r with
  | ok a => exact hf a
  | error e => trivial

/-- The bounds of a routine hold of its log. -/
theorem ends {r : Routine α} {post : α → Prop} (h : r.Within s may post) {log : Log} {a : α}
    (hends : r.Ends log a) (hlog : ∀ d ∈ log, d.AnsweredIn s) : post a := by
  induction r generalizing log with
  | done b =>
    obtain ⟨-, rfl⟩ := Routine.ends_done.1 hends
    exact h
  | unfinished => cases hends
  | step c next ih =>
    cases hends with
    | step hrest =>
      obtain ⟨⟨w, hreply⟩, hlater⟩ := List.forall_mem_cons.1 hlog
      have hnext := h.2 w
      dsimp only at hreply
      rw [← hreply] at hnext
      exact ih _ hnext hrest hlater

/-- What every command within the bounds keeps holds as long as the contract does. -/
theorem ensures {k : Contract σ} {I : Option String → World σ → Prop} {r : Routine α}
    {post : α → Prop} (h : r.Within k.surroundings may post)
    (hcommand : ∀ c author w, may c → I author w → k.assumes ⟨author, w, c⟩ →
      k.guarantees ⟨author, w, c⟩ ∧ I (c.latest author) (w.answer k.surroundings c).2)
    {author : Option String} {w : World σ} (hI : I author w) :
    k.Ensures (fun a author w ↦ I author w ∧ post a) author w r := by
  induction r generalizing author w with
  | done a => exact ⟨hI, h⟩
  | unfinished => trivial
  | step c next ih =>
    intro hassumes
    obtain ⟨hguarantees, hI'⟩ := hcommand c author w h.1 hI hassumes
    exact ⟨hguarantees, ih _ (h.2 w) hI'⟩

/-- Trying a routine again and again keeps within the bounds of one attempt and of the pauses. -/
theorem attemptFrom {ε : Type} {options : RetryOptions} {operation : Nat → Routine (Except ε α)}
    {passing : ε → Bool} {pause : Nat → Duration → Routine Unit} {post : Except ε α → Prop}
    (hop : ∀ n, (operation n).Within s may post)
    (hpause : ∀ n delay, (pause n delay).Within s may (fun _ ↦ True))
    (attempt : Nat) (delay : Duration) (more : Nat) :
    (Retry.attemptFrom options operation passing pause attempt delay more).Within s may post := by
  induction more generalizing attempt delay with
  | zero => exact hop attempt
  | succ more ih =>
    refine (hop attempt).bind fun outcome houtcome ↦ ?_
    cases outcome with
    | ok a => exact houtcome
    | error e =>
      show Routine.Within s may post (if passing e then _ else _)
      split
      · exact (hpause _ _).bind fun _ _ ↦ ih _ _
      · exact houtcome

end Routine.Within

/-! ### Actions -/

/-- All commands that an action may carry out are as allowed, and so are its failures and its
result. -/
structure Action.Within (s : Surroundings σ) (may : Command → Prop) (fails : ActionError → Prop)
    (x : Action α) (post : α → Prop) : Prop where
  routine : x.run.Within s may fun r ↦ (∀ a, r = .ok a → post a) ∧ ∀ e, r = .error e → fails e

namespace Action.Within

variable {s : Surroundings σ} {may : Command → Prop} {fails : ActionError → Prop} {x : Action α}
  {f : α → Action β} {mid post : α → Prop} {fin : β → Prop}

theorem bind (h : Within s may fails x mid) (hf : ∀ a, mid a → Within s may fails (f a) fin) :
    Within s may fails (x >>= f) fin := by
  constructor
  rw [ExceptT.run_bind]
  refine h.routine.bind fun r hr ↦ ?_
  cases r with
  | ok a => exact (hf a (hr.1 a rfl)).routine
  | error e => exact ⟨nofun, fun _ he ↦ by cases he; exact hr.2 e rfl⟩

theorem mono (h : Within s may fails x mid) (hpost : ∀ a, mid a → post a) :
    Within s may fails x post :=
  ⟨h.routine.mono fun _ hr ↦ ⟨fun a ha ↦ hpost a (hr.1 a ha), hr.2⟩⟩

/-- The bounds may be widened. -/
theorem weaken {may' : Command → Prop} {fails' : ActionError → Prop}
    (h : Within s may fails x post) (hmay : ∀ c, may c → may' c)
    (hfails : ∀ e, fails e → fails' e) : Within s may' fails' x post :=
  ⟨(h.routine.weaken hmay).mono fun _ hr ↦ ⟨hr.1, fun e he ↦ hfails e (hr.2 e he)⟩⟩

theorem pure {a : α} (h : post a) : Within s may fails (Pure.pure a) post :=
  ⟨⟨fun _ ha ↦ by cases ha; exact h, nofun⟩⟩

theorem throw {e : ActionError} (h : fails e) :
    Within s may fails (MonadExcept.throw e : Action α) post :=
  ⟨⟨nofun, fun _ he ↦ by cases he; exact h⟩⟩

theorem throw_bind {e : ActionError} (h : fails e) :
    Within s may fails (MonadExcept.throw e >>= f) fin := by
  have hthrow : Within s may fails (MonadExcept.throw e : Action α) (fun _ ↦ False) := throw h
  exact hthrow.bind fun _ hfalse ↦ hfalse.elim

theorem ite {c : Prop} [Decidable c] {y : Action α} (hx : c → Within s may fails x post)
    (hy : ¬ c → Within s may fails y post) : Within s may fails (if c then x else y) post := by
  split
  · exact hx ‹c›
  · exact hy ‹¬ c›

theorem unfinished : Within s may fails (Action.unfinished : Action α) post :=
  ⟨trivial⟩

theorem ofExcept {o : Except ActionError α} (h : ∀ e, o = .error e → fails e) :
    Within s may fails (Action.ofExcept o) (fun a ↦ o = .ok a) :=
  ⟨⟨fun _ ha ↦ ha, h⟩⟩

theorem orFail {ε : Type} {toError : ε → ActionError} {o : Except ε α}
    (h : ∀ e, fails (toError e)) :
    Within s may fails (Action.orFail toError o) (fun a ↦ o = .ok a) := by
  cases o with
  | ok a => exact ⟨⟨fun _ ha ↦ by cases ha; rfl, nofun⟩⟩
  | error e => exact ⟨⟨nofun, fun _ he ↦ by cases he; exact h e⟩⟩

theorem lift {r : Routine α} (h : r.Within s may post) :
    Within s may fails (ExceptT.lift r) post := by
  constructor
  rw [ExceptT.run_lift, map_eq_pure_bind]
  exact h.bind fun a ha ↦ ⟨fun _ hb ↦ by cases hb; exact ha, nofun⟩

theorem command {c : Command} (h : may c) :
    Within s may fails (Action.command c) (fun reply ↦ ∃ w : World σ, reply = (w.answer s c).1) :=
  lift (.command h)

/-- An outcome that is looked at is as it may be. -/
theorem outcome (h : Within s may fails x post) :
    Within s may fails (ExceptT.lift x.run)
      (fun r ↦ (∀ a, r = .ok a → post a) ∧ ∀ e, r = .error e → fails e) :=
  lift h.routine

/-- What is done one block deeper fails as it may. -/
theorem indented (hin : may (.store .indentIn)) (hout : may (.store .indentOut))
    (h : Within s may fails x post) : Within s may fails (Action.indented x) post := by
  refine .bind (.command hin) fun _ _ ↦ ?_
  refine .bind h.outcome fun outcome houtcome ↦ ?_
  refine .bind (.command hout) fun _ _ ↦ ?_
  exact (ofExcept houtcome.2).mono houtcome.1

/-- What every command within the bounds keeps holds in a run. -/
theorem keeps {k : Contract σ} {I : Option String → World σ → Prop}
    (h : Within k.surroundings may fails x post)
    (hcommand : ∀ c author w, may c → I author w → k.assumes ⟨author, w, c⟩ →
      k.guarantees ⟨author, w, c⟩ ∧ I (c.latest author) (w.answer k.surroundings c).2) :
    k.Keeps I x post :=
  ⟨fun _ _ hI ↦ (h.routine.ensures hcommand hI).mono fun _ _ _ hr ↦ ⟨hr.1, hr.2.1⟩⟩

end Action.Within

/-! ### Footprints -/

/-- The name under which an access stores what it is told to, or removes it. -/
def StoreAccess.stored? : StoreAccess → Option String
  | put key _ => some key
  | remove key => some key
  | push key _ => some key
  | _ => none

namespace Command

/-- The name under which a command writes in the store. -/
def written? : Command → Option String
  | store a => a.written?
  | _ => none

/-- A command leaves alone what is under any other name than the one that it writes. -/
theorem get?_answer {s : Surroundings σ} {w : World σ} {c : Command} {key : String}
    (hview : Key.isPageView key = false) (h : c.written? ≠ some key) :
    (w.answer s c).2.store.get? key = w.store.get? key := by
  cases c with
  | store a => exact StoreAccess.get?_answer hview h
  | _ => rfl

/-- The name under which a command stores what it is told to, or removes it. -/
def stored? : Command → Option String
  | store a => a.stored?
  | _ => none

/-- The path that a command touches. A picture is taken for the path that it is asked for. -/
def path? : Command → Option String
  | file c => some c.path
  | page _ (.screenshot request) => some request.path
  | _ => none

/-- The line that a command puts out as it is. -/
def reported? : Command → Option String
  | report line => some line
  | _ => none

/-- A line announces nothing if it does not begin as an announcement does. -/
theorem announced?_of_head? {line : String} (h : line.toList.head? ≠ some 'R') :
    (display line).announced? = none := by
  rw [announced?, if_neg]
  intro hprefix
  obtain ⟨rest, hrest⟩ := List.isPrefixOf_iff_prefix.1 hprefix
  rw [← hrest] at h
  exact h rfl

end Command

/-- What an action does by itself: under which names it writes, and whether it touches files. -/
structure Footprint where
  writes : String → Prop
  touches : Prop

namespace Footprint

/-- An action that hands on values at most. -/
def handing : Footprint := ⟨(· = Key.input), False⟩

/-- An action that writes under any name. -/
def storing : Footprint := ⟨fun _ ↦ True, False⟩

/-- An action that hands on values, or sets one of the directories, and touches files. -/
def touching : Footprint :=
  ⟨fun key ↦ key = Key.input ∨ key = Key.baseDir ∨ key = Key.currentDir, True⟩

theorem not_writes_touching : ¬ touching.writes Key.indent :=
  show ¬ (Key.indent = Key.input ∨ Key.indent = Key.baseDir ∨ Key.indent = Key.currentDir) by decide

/-- A command is in a footprint: it announces no action and puts out no line as it is, and writes no
other names and touches no other paths. -/
structure Covers (f : Footprint) (c : Command) : Prop where
  unannounced : c.announced? = none
  unreported : c.reported? = none
  stores : ∀ key, c.written? = some key → c.stored? = some key ∧ f.writes key
  paths : ∀ path, c.path? = some path → f.touches

/-- A command that neither writes nor touches a path, and is no line of output, is in every
footprint. -/
theorem Covers.of_none {f : Footprint} {c : Command} (hannounced : c.announced? = none)
    (hreported : c.reported? = none) (hwritten : c.written? = none) (hpath : c.path? = none) :
    f.Covers c where
  unannounced := hannounced
  unreported := hreported
  stores _ h := nomatch hwritten.symm.trans h
  paths _ h := nomatch hpath.symm.trans h

end Footprint

/-- An error in an action's own words, which neither says that parameters break rules nor that an
action is not known, and does not collect others. -/
def ActionError.IsOwn : ActionError → Prop
  | .invalidParams .. => False
  | .unknownAction _ => False
  | .deferred _ => False
  | _ => True

/-- A missing text is an error in the words of its action. -/
theorem Members.isOwn_of_text {ps : Members} {action key : String} {e : ActionError}
    (h : ps.text action key = .error e) : e.IsOwn := by
  rw [text] at h
  split at h
  · cases h
  · cases h
    trivial

/-- A handler keeps within a footprint and fails in its own words. -/
def Handler.Within (f : Footprint) (h : Handler) : Prop :=
  ∀ {σ : Type} (s : Surroundings σ) cx ps,
    Action.Within s f.Covers ActionError.IsOwn (h cx ps) (fun _ ↦ True)

/-! ### What actions are made of -/

namespace Action.Within

variable {s : Surroundings σ} {f : Footprint}

/-- A command that does not count in a footprint. -/
theorem free {c : Command} (hannounced : c.announced? = none) (hreported : c.reported? = none)
    (hwritten : c.written? = none) (hpath : c.path? = none) :
    Within s f.Covers ActionError.IsOwn (Action.command c) (fun _ ↦ True) :=
  (command (.of_none hannounced hreported hwritten hpath)).mono fun _ _ ↦ trivial

theorem display {line : String} (h : line.toList.head? ≠ some 'R') :
    Within s f.Covers ActionError.IsOwn (Action.display line) (fun _ ↦ True) :=
  free (Command.announced?_of_head? h) rfl rfl rfl

/-- An access that stores under a name of the footprint. -/
theorem access {a : StoreAccess} {key : String} (hwritten : a.written? = some key)
    (hstored : a.stored? = some key) (hkey : f.writes key) :
    Within s f.Covers ActionError.IsOwn (Action.access a) (fun _ ↦ True) := by
  refine (command ⟨rfl, rfl, fun k hk ↦ ?_, nofun⟩).mono fun _ _ ↦ trivial
  cases hk.symm.trans hwritten
  exact ⟨hstored, hkey⟩

theorem put {key : String} {v : Json} (h : f.writes key) :
    Within s f.Covers ActionError.IsOwn (Action.put key v) (fun _ ↦ True) :=
  access rfl rfl h

theorem onPage {page : PageId} {call : PageCall} {toError : PageError → ActionError}
    (herror : ∀ e, (toError e).IsOwn) (hpath : (Command.page page call).path? = none) :
    Within s f.Covers ActionError.IsOwn (Action.onPage page call toError) (fun _ ↦ True) :=
  bind (free rfl rfl rfl hpath) fun _ _ ↦ (orFail herror).mono fun _ _ ↦ trivial

theorem text {action key : String} {ps : Members} :
    Within s f.Covers ActionError.IsOwn (Action.ofExcept (ps.text action key)) (fun _ ↦ True) :=
  (ofExcept fun _ ↦ Members.isOwn_of_text).mono fun _ _ ↦ trivial

theorem needPage {cx : Context} {action : String} :
    Within s f.Covers ActionError.IsOwn (Action.ofExcept (cx.needPage action)) (fun _ ↦ True) := by
  refine (ofExcept fun e he ↦ ?_).mono fun _ _ ↦ trivial
  rw [Context.needPage] at he
  split at he
  · cases he
  · cases he
    trivial

section Files

variable (hfiles : f.touches)

include hfiles

theorem tryFile {call : FileCall} :
    Within s f.Covers ActionError.IsOwn (Action.tryFile call) (fun _ ↦ True) :=
  (command ⟨rfl, rfl, nofun, fun _ _ ↦ hfiles⟩).mono fun _ _ ↦ trivial

theorem file {action operation : String} {call : FileCall} :
    Within s f.Covers ActionError.IsOwn (Action.file action operation call) (fun _ ↦ True) :=
  bind (tryFile hfiles) fun _ _ ↦ (orFail fun _ ↦ trivial).mono fun _ _ ↦ trivial

theorem pathExists {path : String} :
    Within s f.Covers ActionError.IsOwn (Action.pathExists path) (fun _ ↦ True) := by
  refine bind (tryFile hfiles) fun reply _ ↦ ?_
  split
  · exact pure trivial
  · exact pure trivial

end Files
end Action.Within
end WebRecipe
