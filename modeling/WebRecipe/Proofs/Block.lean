import WebRecipe.Proofs.Engine
import WebRecipe.Proofs.Footprint.Builtin
import WebRecipe.Proofs.Footprint.Nested
import WebRecipe.Proofs.Routine.Agreement
import WebRecipe.Proofs.Routine.Alone
import WebRecipe.Rehearsal

/-!
# The level of a block

The level of indentation is a value of the store, which a block raises by a step and lowers again
when it ends, however it ends. As long as no action on variables writes it, every built-in action
gives it back as it found it, and what an action performs begins at the level of the action, or one
step deeper if the action is a branch, a loop or the login.

An action is compared with the same action that performs others in another way. If the other way
agrees with the way in which they are performed, at the level that they are expected at, then so do
the two actions.

So performing an action gives the level back, whatever is nested in it, to any depth, and at every
action on the way the level is that of the outermost one and a step more for each block around it.
To say so, an engine performs actions with a watch on the level: whenever the level is not the one
that is expected where a handler starts, it does something else. Whatever else this is, it is never
done.

## Main definitions

* `Moment.MisplacesIndent`: an action on variables writes the level.
* `AtLevel`, `leveling`: what is kept, and the contract under which it is.
* `blockActions`, `levelWithin`: the level at which an action performs others.
* `Engine.performAtLevel`: performing an action with a watch on the level.

## Main results

* `Contract.Follows.indented`: what is done one block deeper.
* `Action.builtin_level`: every built-in action.
* `Engine.performWithin_follows`: performing an action up to any depth.
* `Engine.level_restored`: the level is given back, and is as expected at every action.
-/

namespace WebRecipe

variable {σ α : Type}

/-! ### Levels -/

/-- An action on variables writes the level of indentation. -/
def Moment.MisplacesIndent (m : Moment σ) : Prop :=
  (∃ name ∈ variableActions, m.author = some name) ∧ m.command.stored? = some Key.indent

/-- The level that is read from the store. -/
def AtLevel (n : Nat) (_ : Option String) (w : World σ) : Prop :=
  w.store.indent = n

/-- The contract of giving the level back: no action on variables writes it. -/
def leveling (s : Surroundings σ) : Contract σ where
  surroundings := s
  assumes m := ¬ m.MisplacesIndent
  guarantees _ := True

/-- The actions that perform others one block deeper. -/
def blockActions : List String :=
  ["if", "ifElse", "for", "forEach", "while", "login"]

/-- The level at which an action performs others, given its own. -/
def levelWithin (name : String) (n : Nat) : Nat :=
  if name ∈ blockActions then n + indentStep else n

theorem Store.indent_setIndent (s : Store) (n : Nat) : (s.setIndent n).indent = n := by
  rw [indent, setIndent, get?_put_self (by decide)]
  simp [Json.asNat?]

/-- A command that does not write the level leaves it alone. -/
theorem World.indent_answer {s : Surroundings σ} {w : World σ} {c : Command}
    (h : c.written? ≠ some Key.indent) : (w.answer s c).2.store.indent = w.store.indent := by
  cases c with
  | store a =>
    have hget : (a.answer w.store).2.get? Key.indent = w.store.get? Key.indent :=
      StoreAccess.get?_answer (by decide) h
    rw [Store.indent, Store.indent, World.answer, hget]
  | _ => rfl

/-! ### What actions are made of -/

section Rules

variable {s : Surroundings σ} {n : Nat}

/-- A command that does not write the level leaves what comes after it at the same level. -/
private theorem preserves_command {c : Command} (h : c.written? ≠ some Key.indent) :
    (leveling s).Preserves (AtLevel n) (Routine.command c) :=
  .command fun _ _ hw _ ↦ ⟨trivial, (World.indent_answer h).trans hw⟩

/-- A command that does not write the level. -/
theorem level_command {c : Command} (h : c.written? ≠ some Key.indent) :
    (leveling s).Keeps (AtLevel n) (Action.command c) (fun _ ↦ True) :=
  .command fun _ _ hw _ ↦ ⟨trivial, (World.indent_answer h).trans hw, trivial⟩

theorem level_display {line : String} :
    (leveling s).Keeps (AtLevel n) (Action.display line) (fun _ ↦ True) :=
  level_command nofun

theorem level_get {key : String} :
    (leveling s).Keeps (AtLevel n) (Action.get key) (fun _ ↦ True) :=
  level_command nofun

theorem level_setInput {v : Json} :
    (leveling s).Keeps (AtLevel n) (Action.setInput v) (fun _ ↦ True) :=
  level_command (c := .store (.put Key.input v)) (show some Key.input ≠ some Key.indent by decide)

theorem level_ofExcept {o : Except ActionError α} :
    (leveling s).Keeps (AtLevel n) (Action.ofExcept o) (fun _ ↦ True) :=
  .mono .ofExcept fun _ _ ↦ trivial

theorem level_orFail {ε : Type} {toError : ε → ActionError} {o : Except ε α} :
    (leveling s).Keeps (AtLevel n) (Action.orFail toError o) (fun _ ↦ True) :=
  .mono .orFail fun _ _ ↦ trivial

/-- What keeps within a footprint without the level leaves it alone. -/
theorem level_within {f : Footprint} (hf : ¬ f.writes Key.indent) {fails : ActionError → Prop}
    {x : Action α} {post : α → Prop} (h : Action.Within s f.Covers fails x post) :
    (leveling s).Keeps (AtLevel n) x post := by
  refine Action.Within.keeps h fun c author w hc hw _ ↦ ⟨trivial, ?_⟩
  exact (World.indent_answer fun hwritten ↦ hf (hc.stores _ hwritten).2).trans hw

/-- What touches files and directories leaves the level alone. -/
theorem level_touching {fails : ActionError → Prop} {x : Action α} {post : α → Prop}
    (h : Action.Within s (Footprint.Covers .touching) fails x post) :
    (leveling s).Keeps (AtLevel n) x (fun _ ↦ True) :=
  (level_within Footprint.not_writes_touching h).mono fun _ _ ↦ trivial

/-- What is done one block deeper is at the next level, and the level is given back. -/
theorem Contract.Follows.indented {x y : Action α}
    (h : (leveling s).Follows (AtLevel (n + indentStep)) x y) :
    (leveling s).Follows (AtLevel n) (Action.indented x) (Action.indented y) := by
  have hin {w : World σ} (hw : w.store.indent = n) :
      (w.answer s (.store .indentIn)).2.store.indent = n + indentStep :=
    (Store.indent_setIndent _ _).trans (congrArg (· + indentStep) hw)
  have hout {w : World σ} (hw : w.store.indent = n + indentStep) :
      (w.answer s (.store .indentOut)).2.store.indent = n :=
    (Store.indent_setIndent _ _).trans (hw ▸ Nat.add_sub_cancel n indentStep)
  constructor
  · refine ⟨fun author w hw ↦ ?_⟩
    rw [Action.run_indented]
    refine fun _ ↦ ⟨trivial, Contract.ensures_bind.2 ?_⟩
    refine (h.keeps.ensures _ _ (hin hw)).mono fun outcome author w hr _ ↦ ⟨trivial, ?_⟩
    exact ⟨hout hr.1, fun _ _ ↦ trivial⟩
  · intro author w hw
    rw [Action.run_indented, Action.run_indented]
    refine Contract.agrees_step fun _ ↦ Contract.agrees_bind (h.agrees _ _ (hin hw)) ?_
    exact (h.keeps.ensures _ _ (hin hw)).mono fun _ _ _ _ ↦ .refl _

/-- Trying an action again follows trying the other one again. -/
theorem Contract.Follows.withRetries {options : RetryOptions} {x y : Action Unit}
    (h : (leveling s).Follows (AtLevel n) x y) :
    (leveling s).Follows (AtLevel n) (Action.withRetries options x)
      (Action.withRetries options y) := by
  have hpause (m : Nat) (delay : Duration) : (leveling s).Preserves (AtLevel n) (do
      Routine.command (.display (Retry.line m options.maxAttempts delay))
      Routine.command (.sleep delay.millis)) :=
    .bind (preserves_command nofun) fun _ ↦ preserves_command nofun
  exact ⟨.of_preserves (.attemptFrom (fun _ ↦ h.keeps.preserves) hpause _ _ _), fun _ _ hw ↦
    Contract.agrees_attemptFrom (fun _ ↦ h.keeps.preserves) hpause (fun _ ↦ h.agrees) _ _ _ hw⟩

end Rules

/-! ### Actions that perform others -/

namespace Action

variable {s : Surroundings σ} {n : Nat} {cx : Context} {perform : ActionCall → Action Unit}

/-- The actions that are performed agree with those that are performed in another way. -/
def Performing (s : Surroundings σ) (n : Nat) (cx : Context)
    (perform : ActionCall → Action Unit) : Prop :=
  ∀ call, (leveling s).Follows (AtLevel n) (cx.perform call) (perform call)

private theorem runBlock_follows (hp : Performing s n cx perform) (actions : List ActionCall) :
    (leveling s).Follows (AtLevel n) (cx.runBlock actions)
      (Context.runBlock { cx with perform } actions) := by
  induction actions with
  | nil => exact .refl (.pure trivial)
  | cons call rest ih => exact .bind (hp call) fun _ ↦ ih

private theorem showEnd_follows {text : String} {x y : Action Unit}
    (h : (leveling s).Follows (AtLevel (n + indentStep)) x y) :
    (leveling s).Follows (AtLevel n) (showEnd text x) (showEnd text y) :=
  .bind h.indented fun _ ↦ .refl level_display

private theorem level_conditionHolds {action condition : String} :
    (leveling s).Keeps (AtLevel n) (conditionHolds action condition) (fun _ ↦ True) :=
  .bind level_get fun _ _ ↦ level_orFail

section Control

variable (hp : Performing s (n + indentStep) cx perform)

include hp

theorem branch_follows (action : String) (hasElse : Bool) (ps : Members) :
    (leveling s).Follows (AtLevel n) (branch action hasElse cx ps)
      (branch action hasElse { cx with perform } ps) := by
  refine .after level_ofExcept fun condition ↦ ?_
  refine .after level_ofExcept fun actions ↦ ?_
  refine .after level_ofExcept fun elseActions ↦ ?_
  refine .after level_display fun _ ↦ ?_
  refine .after level_conditionHolds fun holds ↦ ?_
  refine .ite ?_ ?_
  · exact .after level_display fun _ ↦ showEnd_follows (runBlock_follows hp actions)
  · refine .after level_display fun _ ↦ ?_
    cases elseActions with
    | some block => exact showEnd_follows (runBlock_follows hp block)
    | none => exact .refl (.pure trivial)

omit hp in
private theorem countingRounds_follows (hp : Performing s n cx perform)
    (actions : List ActionCall) (limit step : Int) (count : Nat) (i : Int) :
    (leveling s).Follows (AtLevel n) (countingRounds cx actions limit step count i)
      (countingRounds { cx with perform } actions limit step count i) := by
  induction count generalizing i with
  | zero => exact .refl (.pure trivial)
  | succ count ih =>
    refine .after level_display fun _ ↦ ?_
    refine .after level_setInput fun _ ↦ ?_
    exact .bind (runBlock_follows hp actions) fun _ ↦ ih (i + step)

theorem countingLoop_follows (ps : Members) :
    (leveling s).Follows (AtLevel n) (countingLoop cx ps)
      (countingLoop { cx with perform } ps) := by
  refine .after level_ofExcept fun actions ↦ ?_
  refine .ite (.refl .throw_bind) ?_
  exact showEnd_follows (countingRounds_follows hp actions _ _ _ _)

omit hp in
private theorem itemRounds_follows (hp : Performing s n cx perform) (actions : List ActionCall)
    (key : String) (total k : Nat) (items : List Json) :
    (leveling s).Follows (AtLevel n) (itemRounds cx actions key total k items)
      (itemRounds { cx with perform } actions key total k items) := by
  induction items generalizing k with
  | nil => exact .refl (.pure trivial)
  | cons item rest ih =>
    refine .after level_display fun _ ↦ ?_
    refine .after level_setInput fun _ ↦ ?_
    exact .bind (runBlock_follows hp actions) fun _ ↦ ih (k + 1)

theorem itemLoop_follows (ps : Members) :
    (leveling s).Follows (AtLevel n) (itemLoop cx ps) (itemLoop { cx with perform } ps) := by
  refine .after level_ofExcept fun key ↦ ?_
  refine .after level_ofExcept fun actions ↦ ?_
  refine .after level_get fun value ↦ ?_
  split
  · exact showEnd_follows (itemRounds_follows hp actions key _ _ _)
  · exact .refl .throw
  · exact .refl .throw

omit hp in
private theorem conditionRounds_follows (hp : Performing s n cx perform)
    (actions : List ActionCall) (condition : String) (patience : Nat) :
    (leveling s).Follows (AtLevel n) (conditionRounds cx actions condition patience)
      (conditionRounds { cx with perform } actions condition patience) := by
  induction patience with
  | zero => exact .refl .unfinished
  | succ patience ih =>
    refine .after level_conditionHolds fun holds ↦ ?_
    refine .ite ?_ (.refl (.pure trivial))
    exact .bind (runBlock_follows hp actions) fun _ ↦ ih

theorem conditionLoop_follows (ps : Members) :
    (leveling s).Follows (AtLevel n) (conditionLoop cx ps)
      (conditionLoop { cx with perform } ps) := by
  refine .after level_ofExcept fun condition ↦ ?_
  refine .after level_ofExcept fun actions ↦ ?_
  exact showEnd_follows (conditionRounds_follows hp actions condition _)

end Control

/-- Opening a page by the method of its name is at the level of the call. -/
theorem callMethod_follows (hp : Performing s n cx perform) (ps : Members) :
    (leveling s).Follows (AtLevel n) (callMethod cx ps) (callMethod { cx with perform } ps) := by
  refine .after level_ofExcept fun method ↦ ?_
  refine .after level_display fun _ ↦ ?_
  split
  · exact .after (level_command nofun) fun key ↦ hp _
  · refine .after level_ofExcept fun page ↦ ?_
    refine .after (level_touching (pageMethod_within page method _ _)) fun outcome ↦ ?_
    split
    · exact .refl level_setInput
    · exact .refl level_display

namespace Login

private theorem saveCookies_follows (hp : Performing s n cx perform) (page : PageId)
    (cache : String) :
    (leveling s).Follows (AtLevel n) (saveCookies cx page cache)
      (saveCookies { cx with perform } page cache) := by
  refine .after (level_touching (.onPage (fun _ ↦ trivial) rfl)) fun cookies ↦ ?_
  refine .ite (.refl (.pure trivial)) ?_
  have hsave : (leveling s).Keeps (AtLevel n) (do
      let _ ← file "login" "write" (.write cache (writeCookies cookies).toUTF8)
      display ": Cookies saved") (fun _ ↦ True) :=
    level_touching (.bind (.file trivial) fun _ _ ↦ .display (by simp))
  split
  · exact .refl hsave
  · refine .after (level_touching (.pathExists trivial)) fun found ↦ ?_
    refine .ite ?_ (.refl hsave)
    exact .bind (hp _) fun _ ↦ .refl hsave

private theorem submit_follows (hp : Performing s n cx perform) (page : PageId) (login : Login)
    (cache : String) :
    (leveling s).Follows (AtLevel n) (submit cx page login cache)
      (submit { cx with perform } page login cache) := by
  refine .bind (hp _) fun _ ↦ ?_
  refine .after level_display fun _ ↦ ?_
  refine .after (level_touching awaitVisible_within) fun _ ↦ ?_
  refine .bind (hp _) fun _ ↦ ?_
  refine .after (level_touching awaitVisible_within) fun _ ↦ ?_
  refine .bind (hp _) fun _ ↦ ?_
  refine .after level_display fun _ ↦ ?_
  refine .after (level_touching awaitVisible_within) fun _ ↦ ?_
  refine .bind (hp _) fun _ ↦ ?_
  refine .after level_display fun _ ↦ ?_
  refine .after (level_touching (.onPage (fun _ ↦ trivial) rfl)) fun _ ↦ ?_
  exact saveCookies_follows hp page cache

end Login

theorem login_follows (hp : Performing s (n + indentStep) cx perform) (ps : Members) :
    (leveling s).Follows (AtLevel n) (login cx ps) (login { cx with perform } ps) := by
  refine .after level_ofExcept fun login ↦ ?_
  refine .after level_ofExcept fun page ↦ ?_
  refine .withRetries (.indented ?_)
  refine .after (.bind level_get fun _ _ ↦ .pure trivial) fun base ↦ ?_
  split
  · exact .refl .throw
  · refine .after (level_touching Login.restore_within) fun restored ↦ ?_
    refine .ite (.refl (.pure trivial)) ?_
    refine .bind (Login.submit_follows hp page login _).outcome fun outcome ↦ ?_
    exact .refl level_orFail

/-! ### All handlers -/

/-- Every built-in handler gives the level back and agrees with what it is when others are performed
in another way, if these agree at the level at which it performs them. -/
theorem builtin_level {name : String} {h : Handler} (hbuiltin : Builtin name h)
    (hp : Performing s (levelWithin name n) cx perform) (ps : Members) {w : World σ}
    (hw : w.store.indent = n) :
    (leveling s).Ensures (fun _ author w ↦ AtLevel n author w) (some name) w (h cx ps).run ∧
      (leveling s).Agrees (some name) w (h cx ps).run (h { cx with perform } ps).run := by
  have hfollows {x y : Action Unit} (hxy : (leveling s).Follows (AtLevel n) x y) :
      (leveling s).Ensures (fun _ author w ↦ AtLevel n author w) (some name) w x.run ∧
        (leveling s).Agrees (some name) w x.run y.run :=
    ⟨hxy.keeps.preserves.ensures _ _ hw, hxy.agrees _ _ hw⟩
  cases hbuiltin with
  | @alone _ _ f alone writes =>
    rw [alone.performs cx perform ps]
    refine ⟨?_, .refl _⟩
    -- what acts alone announces nothing, so that it is the author of all that it does
    have hkeeps : (leveling s).Keeps (fun author w ↦ author = some name ∧ AtLevel n author w)
        (h cx ps) (fun _ ↦ True) := by
      refine (alone.within s cx ps).keeps fun c author w hc ⟨hauthor, hw⟩ hassumes ↦ ?_
      refine ⟨trivial, ?_, (World.indent_answer fun hwritten ↦ ?_).trans hw⟩
      · rw [Command.latest, hc.unannounced, hauthor]
        rfl
      · obtain ⟨hstored, hkey⟩ := hc.stores _ hwritten
        have hname := (writes _ hkey).resolve_left Footprint.not_writes_touching
        exact hassumes ⟨⟨name, hname, hauthor⟩, hstored⟩
    exact (hkeeps.ensures _ w ⟨rfl, hw⟩).mono fun _ _ _ hr ↦ hr.1.2
  | ifTrue => exact hfollows (branch_follows hp _ _ _)
  | ifElse => exact hfollows (branch_follows hp _ _ _)
  | countingLoop => exact hfollows (countingLoop_follows hp _)
  | itemLoop => exact hfollows (itemLoop_follows hp _)
  | conditionLoop => exact hfollows (conditionLoop_follows hp _)
  | callMethod => exact hfollows (callMethod_follows hp _)
  | login => exact hfollows (login_follows hp _)

end Action
end WebRecipe

namespace WebRecipe

variable {σ : Type} {s : Surroundings σ} {n : Nat}

namespace Engine

/-- Performs an action that is expected at a level, and does something else whenever a handler would
start at another one. An action nested in a block is expected one step deeper than the block. -/
def performAtLevel (e : Engine) (otherwise : ActionCall → Action Unit) :
    (depth level : Nat) → ActionCall → Action Unit
  | 0, _, _ => Action.unfinished
  | depth + 1, level, call => do
    let prepared ← e.prepare call
    let now ← Action.get Key.indent
    if (now.bind Json.asNat?).getD 0 = level then
      e.dispatch (e.performAtLevel otherwise depth (levelWithin call.name level)) prepared
    else otherwise call

/-- The preparation of an action leaves the level alone. -/
private theorem prepares_level {name : String} (c : Command) (author : Option String) (w : World σ)
    (hc : c.Prepares name) (hw : AtLevel n author w) (_ : (leveling s).assumes ⟨author, w, c⟩) :
    (leveling s).guarantees ⟨author, w, c⟩ ∧
      AtLevel n (c.latest author) (w.answer (leveling s).surroundings c).2 := by
  have hwritten : c.written? ≠ some Key.indent := by
    cases hc with
    | put params => exact show some Key.params ≠ some Key.indent by decide
    | _ => exact nofun
  exact ⟨trivial, (World.indent_answer hwritten).trans hw⟩

/-- Looking at the level changes nothing, and what is expected is found. -/
private theorem agrees_watch {author : Option String} {w : World σ} (hw : w.store.indent = n)
    {x y other : Action Unit} (h : (leveling s).Agrees author w x.run y.run) :
    (leveling s).Agrees author w x.run (do
      let now ← Action.get Key.indent
      if (now.bind Json.asNat?).getD 0 = n then y else other : Action Unit).run := by
  intro hassumes
  refine Eq.trans ?_ (h hassumes)
  show (if w.store.indent = n then y else other).run.run s w = _
  rw [if_pos hw]
  rfl

/-- Performing an action up to any depth gives the level back, and with a watch on the level it does
the same. -/
theorem performWithin_follows {e : Engine} (hreg : e.registry = Action.builtinRegistry)
    (otherwise : ActionCall → Action Unit) (depth : Nat) (call : ActionCall) :
    (leveling s).Follows (AtLevel n) (e.performWithin depth call)
      (e.performAtLevel otherwise depth n call) := by
  induction depth generalizing n call with
  | zero => exact .refl .unfinished
  | succ depth ih =>
    have hperforming (page : Option PageId) : Action.Performing s (levelWithin call.name n)
        ⟨e.settings, page, e.performWithin depth, e.patience⟩
        (e.performAtLevel otherwise depth (levelWithin call.name n)) := fun call ↦ ih call
    have hhandler {p : Prepared} (hget : e.registry.get? call.name = some p.handler) {w : World σ}
        (hw : w.store.indent = n) :=
      Action.builtin_level (Action.builtin_of_get? hreg hget) (hperforming p.page) p.params hw
    constructor
    · refine ⟨fun author w hw ↦ ?_⟩
      refine (e.ensures_prepare_bind hw prepares_level (fun _ _ _ hw ↦ hw)
        fun p w hw hget ↦ (hhandler hget hw).1).mono fun _ _ _ hw ↦ ⟨hw, fun _ _ ↦ trivial⟩
    · intro author w hw
      rw [performWithin, performAtLevel, ExceptT.run_bind, ExceptT.run_bind]
      refine Contract.agrees_bind (.refl _) ?_
      refine (e.ensures_prepare hw prepares_level).mono fun r author w hr ↦ ?_
      cases r with
      | error err => exact .refl _
      | ok p =>
        obtain ⟨rfl, hget⟩ := hr.2 p rfl
        exact agrees_watch hr.1 (hhandler hget hr.1).2

/-- **Blocks give the level back.** An action is performed to any depth, in any world, and no action
on variables writes the level. However it ends, the level is as it was before; and every handler on
the way starts at the level of the action and a step more for each block around it. -/
theorem level_restored (s : Surroundings σ) (e : Engine)
    (hreg : e.registry = Action.builtinRegistry) (depth : Nat) (call : ActionCall) (w : World σ)
    (hvariables : ∀ m ∈ (e.performWithin depth call).run.moments s none w, ¬ m.MisplacesIndent) :
    (∀ r w', (e.performWithin depth call).run.run s w = (some r, w') →
      w'.store.indent = w.store.indent) ∧
    ∀ otherwise, (e.performAtLevel otherwise depth w.store.indent call).run.run s w =
      (e.performWithin depth call).run.run s w := by
  refine ⟨fun r w' hrun ↦ ?_, fun otherwise ↦ ?_⟩
  · have hfollows : (leveling s).Follows (AtLevel w.store.indent) (e.performWithin depth call) _ :=
      performWithin_follows hreg (fun _ ↦ Action.unfinished) depth call
    obtain ⟨author, hend⟩ :=
      ((hfollows.keeps.preserves.ensures none w rfl).sound hvariables).2 r w' hrun
    exact hend
  · exact (performWithin_follows hreg otherwise depth call).agrees none w rfl hvariables

/-- An engine with the built-in actions, and three blocks deep. -/
def shallowEngine : Engine :=
  { registry := Action.builtinRegistry, depth := 3, patience := 3 }

/-- A loop in a loop, in which an action fails for want of a page. -/
def failingLoops : ActionCall :=
  let click : Json := .obj [("name", .str "click"), ("params", .obj [("selector", .str "a")])]
  let loop : Json := .obj [("name", .str "for"),
    ("params", .obj [("from", .int 1), ("until", .int 2), ("actions", .arr [click])])]
  ⟨"for", some [("from", .int 1), ("until", .int 2), ("actions", .arr [loop])], true⟩

/-- A world at the level of two blocks. -/
def deepWorld : World Rehearsal :=
  { store := Store.setIndent {} 4, rest := {} }

/-- These loops fail, and the level is that of two blocks again. -/
theorem level_restored_failingLoops :
    ((shallowEngine.performWithin 3 failingLoops).run.run Rehearsal.surroundings
        deepWorld).2.store.indent = 4 ∧
      ∀ otherwise, (shallowEngine.performAtLevel otherwise 3 4 failingLoops).run.run
          Rehearsal.surroundings deepWorld =
        (shallowEngine.performWithin 3 failingLoops).run.run Rehearsal.surroundings deepWorld := by
  have hauthors : ∀ a ∈ ((shallowEngine.performWithin 3 failingLoops).run.moments
      Rehearsal.surroundings none deepWorld).map Moment.author, a ∉ variableActions.map some := by
    decide +kernel
  have hends : ((shallowEngine.performWithin 3 failingLoops).run.run Rehearsal.surroundings
      deepWorld).1.isSome = true := by
    decide +kernel
  have hlevel : deepWorld.store.indent = 4 := by decide +kernel
  obtain ⟨hend, hwatch⟩ := level_restored Rehearsal.surroundings shallowEngine rfl 3 failingLoops
    deepWorld fun m hm hmisplaces ↦ by
      obtain ⟨⟨name, hname, hauthor⟩, -⟩ := hmisplaces
      refine hauthors m.author (List.mem_map_of_mem hm) ?_
      rw [hauthor]
      exact List.mem_map_of_mem hname
  obtain ⟨r, hr⟩ := Option.isSome_iff_exists.1 hends
  rw [hlevel] at hend hwatch
  exact ⟨hend r _ (Prod.ext hr rfl), hwatch⟩

end Engine
end WebRecipe
