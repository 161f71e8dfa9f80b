import WebRecipe.Action.Control
import WebRecipe.Action.Login
import WebRecipe.Proofs.BaseDir.Files
import WebRecipe.Proofs.Footprint.Pages
import WebRecipe.Proofs.Routine.Agreement

/-!
# Actions that perform others

Branches and loops leave the directories where they should be if the actions in them do. The login
and the calls of a page perform actions that leave both directories as they are, and so they do as
well; the cookies are kept in a directory of the base directory.

## Main definitions

* `movingActions`: the actions that may change the directories.
* `Performs`: what is known of the actions that are performed.

## Main results

* `Action.branch_placed`, `Action.countingLoop_placed`, `Action.itemLoop_placed`,
  `Action.conditionLoop_placed`.
* `Action.callMethod_keeps`, `Action.login_keeps`.
-/

namespace WebRecipe

open WebRecipe.Path

variable {σ : Type}

/-- The actions that may leave the directories other than they found them. -/
def movingActions : List String :=
  ["setVariable", "deleteVariable", "transferVariable", "appendToVariable", "countStart",
    "countIncrement", "countDecrement", "if", "ifElse", "for", "forEach", "while", "setBaseDir",
    "setCurrentDir", "resetCurrentDir", "backToParentDir"]

/-- What is known of performing an action: it leaves the directories where they should be, and as
they are unless it is one of the moving ones. -/
structure Performs (s : Surroundings σ) (top : String) (A : Moment σ → Prop)
    (perform : ActionCall → Action Unit) : Prop where
  placed : ∀ call, (confinement s top A).Keeps (fun _ w ↦ w.store.IsPlaced top) (perform call)
    (fun _ ↦ True)
  held : ∀ call (d : Dirs), call.name ∉ movingActions → d.Placed top →
    (confinement s top A).Keeps d.Held (perform call) (fun _ ↦ True)

namespace Action

variable {s : Surroundings σ} {top : String} {A : Moment σ → Prop} {cx : Context}

/-! ### Branches and loops -/

private theorem conditionHolds_keeps {k : Contract σ} {I : Option String → World σ → Prop}
    (hI : k.Frames I) (action condition : String) :
    k.Keeps I (conditionHolds action condition) (fun _ ↦ True) :=
  .bind hI.get fun _ _ ↦ .mono .orFail fun _ _ ↦ trivial

section Control

variable (hp : Performs s top A cx.perform)

include hp

private theorem runBlock_placed (actions : List ActionCall) :
    (confinement s top A).Keeps (fun _ w ↦ w.store.IsPlaced top) (cx.runBlock actions)
      (fun _ ↦ True) := by
  induction actions with
  | nil => exact .pure trivial
  | cons call rest ih => exact .bind (hp.placed call) fun _ _ ↦ ih

omit hp in
private theorem showEnd_placed {text : String} {block : Action Unit}
    (h : (confinement s top A).Keeps (fun _ w ↦ w.store.IsPlaced top) block (fun _ ↦ True)) :
    (confinement s top A).Keeps (fun _ w ↦ w.store.IsPlaced top) (showEnd text block)
      (fun _ ↦ True) :=
  .bind (frames_isPlaced.indented h) fun _ _ ↦ frames_isPlaced.display

theorem branch_placed (action : String) (hasElse : Bool) (ps : Members) :
    (confinement s top A).Keeps (fun _ w ↦ w.store.IsPlaced top) (branch action hasElse cx ps)
      (fun _ ↦ True) := by
  have hI : (confinement s top A).Frames (fun _ w ↦ w.store.IsPlaced top) := frames_isPlaced
  refine .bind .ofExcept fun condition _ ↦ ?_
  refine .bind .ofExcept fun actions _ ↦ ?_
  refine .bind .ofExcept fun elseActions _ ↦ ?_
  refine .bind hI.display fun _ _ ↦ ?_
  refine .bind (conditionHolds_keeps hI _ _) fun holds _ ↦ ?_
  refine .ite (fun _ ↦ ?_) fun _ ↦ ?_
  · exact .bind hI.display fun _ _ ↦ showEnd_placed (runBlock_placed hp actions)
  · refine .bind hI.display fun _ _ ↦ ?_
    cases elseActions with
    | some block => exact showEnd_placed (runBlock_placed hp block)
    | none => exact .pure trivial

private theorem countingRounds_placed (actions : List ActionCall) (limit step : Int) (count : Nat)
    (i : Int) :
    (confinement s top A).Keeps (fun _ w ↦ w.store.IsPlaced top)
      (countingRounds cx actions limit step count i) (fun _ ↦ True) := by
  induction count generalizing i with
  | zero => exact .pure trivial
  | succ count ih =>
    refine .bind frames_isPlaced.display fun _ _ ↦ ?_
    refine .bind frames_isPlaced.setInput fun _ _ ↦ ?_
    refine .bind (runBlock_placed hp actions) fun _ _ ↦ ?_
    exact ih (i + step)

theorem countingLoop_placed (ps : Members) :
    (confinement s top A).Keeps (fun _ w ↦ w.store.IsPlaced top) (countingLoop cx ps)
      (fun _ ↦ True) := by
  refine .bind .ofExcept fun actions _ ↦ ?_
  refine .ite (fun _ ↦ .throw_bind) fun _ ↦ ?_
  exact showEnd_placed (countingRounds_placed hp actions _ _ _ _)

private theorem itemRounds_placed (actions : List ActionCall) (key : String) (total n : Nat)
    (items : List Json) :
    (confinement s top A).Keeps (fun _ w ↦ w.store.IsPlaced top)
      (itemRounds cx actions key total n items) (fun _ ↦ True) := by
  induction items generalizing n with
  | nil => exact .pure trivial
  | cons item rest ih =>
    refine .bind frames_isPlaced.display fun _ _ ↦ ?_
    refine .bind frames_isPlaced.setInput fun _ _ ↦ ?_
    refine .bind (runBlock_placed hp actions) fun _ _ ↦ ?_
    exact ih (n + 1)

theorem itemLoop_placed (ps : Members) :
    (confinement s top A).Keeps (fun _ w ↦ w.store.IsPlaced top) (itemLoop cx ps)
      (fun _ ↦ True) := by
  refine .bind .ofExcept fun key _ ↦ ?_
  refine .bind .ofExcept fun actions _ ↦ ?_
  refine .bind frames_isPlaced.get fun value _ ↦ ?_
  split
  · exact showEnd_placed (itemRounds_placed hp actions key _ _ _)
  · exact .throw
  · exact .throw

private theorem conditionRounds_placed (actions : List ActionCall) (condition : String)
    (patience : Nat) :
    (confinement s top A).Keeps (fun _ w ↦ w.store.IsPlaced top)
      (conditionRounds cx actions condition patience) (fun _ ↦ True) := by
  induction patience with
  | zero => exact .unfinished
  | succ patience ih =>
    refine .bind (conditionHolds_keeps frames_isPlaced _ _) fun holds _ ↦ ?_
    refine .ite (fun _ ↦ ?_) fun _ ↦ .pure trivial
    exact .bind (runBlock_placed hp actions) fun _ _ ↦ ih

theorem conditionLoop_placed (ps : Members) :
    (confinement s top A).Keeps (fun _ w ↦ w.store.IsPlaced top) (conditionLoop cx ps)
      (fun _ ↦ True) := by
  refine .bind .ofExcept fun condition _ ↦ ?_
  refine .bind .ofExcept fun actions _ ↦ ?_
  exact showEnd_placed (conditionRounds_placed hp actions condition cx.patience)

end Control

/-! ### Pages -/

section Performing

variable {k : Contract σ} {base : String} {admits : String → Prop}
  {I : Option String → World σ → Prop}

/-- Calling a method of a page keeps what holds if opening a page does. -/
theorem callMethod_keeps (hI : k.Frames I)
    (hnew : ∀ ps, k.Keeps I (cx.invoke "newPage" ps) (fun _ ↦ True)) (ps : Members) :
    k.Keeps I (callMethod cx ps) (fun _ ↦ True) := by
  refine .bind .ofExcept fun method _ ↦ ?_
  refine .bind hI.display fun _ _ ↦ ?_
  split
  · exact .bind (hI.command not_false rfl) fun key _ ↦ hnew _
  · refine .bind .ofExcept fun page _ ↦ ?_
    refine .bind (hI.handing (pageMethod_within page method _ _)) fun outcome _ ↦ ?_
    split
    · exact hI.setInput
    · exact hI.display

/-! ### Logging in -/

/-- Trying an action again keeps what the action keeps. -/
theorem withRetries_keeps (hI : k.Frames I) {options : RetryOptions} {attempt : Action Unit}
    (h : k.Keeps I attempt (fun _ ↦ True)) :
    k.Keeps I (withRetries options attempt) (fun _ ↦ True) := by
  refine .of_preserves (.attemptFrom (fun _ ↦ h.preserves) (fun n delay ↦ ?_) _ _ _)
  exact .bind (hI.preserves not_false rfl) fun _ ↦ hI.preserves not_false rfl

private theorem inside_cookiesFile {dir : String} (hdir : isAbsolute dir = true) :
    Inside dir (join dir Login.cookiesFile) := by
  refine ⟨["cookies".toList, "cookies.json".toList], ?_⟩
  rw [components_join hdir (by decide)]
  rfl

private theorem inside_of_parent_cookiesFile {dir parent : String} (hdir : isAbsolute dir = true)
    (h : parent? (join dir Login.cookiesFile) = some parent) : Inside dir parent := by
  have habs := (inside_cookiesFile hdir).isAbsolute hdir
  refine ⟨["cookies".toList], ?_⟩
  rw [components_parent? habs h, components_join hdir (by decide),
    List.dropLast_append_of_ne_nil (by decide)]
  rfl

private theorem restore_keeps (hk : k.Confines "login" base admits I) {page : PageId}
    {cache : String} (hcache : Inside base cache) (name : Option String) :
    k.Keeps I (Login.restore page cache name) (fun _ ↦ True) := by
  refine .bind (pathExists_keeps hk hcache) fun found _ ↦ ?_
  refine .ite (fun _ ↦ ?_) fun _ ↦ .pure trivial
  refine .bind hk.frames.display fun _ _ ↦ ?_
  refine .bind (file_keeps hk hcache (.inl rfl)) fun text _ ↦ ?_
  refine .bind (hk.frames.command not_false rfl) fun now _ ↦ ?_
  refine .ite (fun _ ↦ ?_) fun _ ↦ ?_
  · refine .bind (hk.frames.onPage rfl) fun _ _ ↦ ?_
    exact .bind hk.frames.display fun _ _ ↦ .pure trivial
  · refine .bind (file_keeps hk hcache (.inl rfl)) fun _ _ ↦ ?_
    exact .bind hk.frames.display fun _ _ ↦ .pure trivial

private theorem awaitVisible_keeps (hI : k.Frames I) {page : PageId} {selector : String}
    {timeout : Nat} : k.Keeps I (Login.awaitVisible page selector timeout) (fun _ ↦ True) :=
  .bind (hI.onPage rfl) fun _ _ ↦ .pure trivial

variable (hk : k.Confines "login" base admits I)
  (hinvoke : ∀ name ps, name ∉ movingActions → name ∉ unconfinedActions →
    k.Keeps I (cx.invoke name ps) (fun _ ↦ True))

include hk hinvoke

private theorem saveCookies_keeps (page : PageId) :
    k.Keeps I (Login.saveCookies cx page (join base Login.cookiesFile)) (fun _ ↦ True) := by
  have hcache := inside_cookiesFile hk.encloses.isAbsolute
  refine .bind (hk.frames.onPage rfl) fun cookies _ ↦ ?_
  refine .ite (fun _ ↦ .pure trivial) fun _ ↦ ?_
  have hsave : k.Keeps I (do
      let _ ← file "login" "write" (.write (join base Login.cookiesFile)
        (Login.writeCookies cookies).toUTF8)
      display ": Cookies saved") (fun _ ↦ True) :=
    .bind (file_keeps hk hcache (.inl rfl)) fun _ _ ↦ hk.frames.display
  cases hparent : parent? (join base Login.cookiesFile) with
  | none => exact hsave
  | some dir =>
    have hdir := inside_of_parent_cookiesFile hk.encloses.isAbsolute hparent
    refine .bind (pathExists_keeps hk hdir) fun found _ ↦ ?_
    refine .ite (fun _ ↦ ?_) fun _ ↦ hsave
    exact .bind (hinvoke _ _ (by decide) (by decide)) fun _ _ ↦ hsave

private theorem submit_keeps (page : PageId) (login : Login) :
    k.Keeps I (Login.submit cx page login (join base Login.cookiesFile)) (fun _ ↦ True) := by
  refine .bind (hinvoke _ _ (by decide) (by decide)) fun _ _ ↦ ?_
  refine .bind hk.frames.display fun _ _ ↦ ?_
  refine .bind (awaitVisible_keeps hk.frames) fun _ _ ↦ ?_
  refine .bind (hinvoke _ _ (by decide) (by decide)) fun _ _ ↦ ?_
  refine .bind (awaitVisible_keeps hk.frames) fun _ _ ↦ ?_
  refine .bind (hinvoke _ _ (by decide) (by decide)) fun _ _ ↦ ?_
  refine .bind hk.frames.display fun _ _ ↦ ?_
  refine .bind (awaitVisible_keeps hk.frames) fun _ _ ↦ ?_
  refine .bind (hinvoke _ _ (by decide) (by decide)) fun _ _ ↦ ?_
  refine .bind hk.frames.display fun _ _ ↦ ?_
  refine .bind (hk.frames.onPage rfl) fun _ _ ↦ ?_
  exact saveCookies_keeps hk hinvoke page

/-- The login keeps what holds if the actions do that it performs. -/
theorem login_keeps (ps : Members) : k.Keeps I (login cx ps) (fun _ ↦ True) := by
  refine .bind .ofExcept fun login _ ↦ ?_
  refine .bind .ofExcept fun page _ ↦ ?_
  refine withRetries_keeps hk.frames (hk.frames.indented ?_)
  refine .bind (getText_keeps hk.frames) fun v ⟨author, w, hw, hv⟩ ↦ ?_
  rw [hv.trans (hk.baseDir hw)]
  refine .bind (restore_keeps hk (inside_cookiesFile hk.encloses.isAbsolute) _)
    fun restored _ ↦ ?_
  refine .ite (fun _ ↦ .pure trivial) fun _ ↦ ?_
  refine .bind (.lift (submit_keeps hk hinvoke page login).preserves) fun outcome _ ↦ ?_
  exact .mono .orFail fun _ _ ↦ trivial

end Performing
end Action
end WebRecipe
