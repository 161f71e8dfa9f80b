import WebRecipe.Action.Builtin
import WebRecipe.Proofs.Engine
import WebRecipe.Proofs.Footprint.Builtin
import WebRecipe.Proofs.Page.Use

/-!
# The built-in actions and their page

Branches and loops, the login and the calls of page methods use no other page than their own by
themselves, and perform other actions. The commands that they carry out themselves are few. Only
three actions reach for the table of pages: one opens a page, one closes a page and one switches to
a page.

## Main definitions

* `Command.Steers`: what an action that performs others carries out itself.
* `Handler.Steering`, `Handler.Performing`: an action that does no more than that, or keeps to its
  page, and performs others.
* `Action.PageUse`: the built-in actions by how they use pages.

## Main results

* `Action.branch_steering`, `Action.login_steering`, …: one statement for each action that performs
  others.
* `Action.pageUse_of_get?`: what an engine finds under a name.
-/

namespace WebRecipe

/-- What is performed in a context is one of the calls. -/
def Context.Performs (cx : Context) (calls : ActionCall → Prop) (x : Action Unit) : Prop :=
  ∃ call, calls call ∧ x = cx.perform call

/-- A command that an action carries out itself which performs others: it shows a line, looks at a
value or hands one on, changes the indentation, asks its page or the world around it for something,
or waits. -/
inductive Command.Steers (page : Option PageId) : Command → Prop
  | display (line : String) : Steers page (.display line)
  | get (key : String) : Steers page (.store (.get key))
  | handOn (v : Json) : Steers page (.store (.put Key.input v))
  | indentIn : Steers page (.store .indentIn)
  | indentOut : Steers page (.store .indentOut)
  | onPage {p : PageId} (h : page = some p) (call : PageCall) : Steers page (.page p call)
  | file (call : FileCall) : Steers page (.file call)
  | sleep (ms : Nat) : Steers page (.sleep ms)
  | now : Steers page .now
  | freshId : Steers page .freshId

/-- What steers keeps to its page. -/
theorem Command.Steers.keepsPage {page : Option PageId} {c : Command} (h : c.Steers page) :
    c.OnPage page := by
  cases h with
  | onPage hpage => exact hpage
  | get | handOn | indentIn | indentOut => rfl
  | _ => trivial

/-- A handler that does no more by itself than to steer, and performs actions. -/
def Handler.Steering (calls : ActionCall → Prop) (h : Handler) : Prop :=
  ∀ {σ : Type} (s : Surroundings σ) (cx : Context) ps,
    Action.MadeOf s (Command.Steers cx.page) (cx.Performs calls) (h cx ps) (fun _ ↦ True)

/-- A handler that keeps to the page of its context by itself, and performs actions. -/
def Handler.Performing (calls : ActionCall → Prop) (h : Handler) : Prop :=
  ∀ {σ : Type} (s : Surroundings σ) (cx : Context) ps,
    Action.MadeOf s (Command.OnPage cx.page) (cx.Performs calls) (h cx ps) (fun _ ↦ True)

/-- A handler that performs no action performs only what it may. -/
theorem Handler.KeepsPage.performing {h : Handler} (hh : h.KeepsPage) (calls : ActionCall → Prop) :
    h.Performing calls :=
  fun s cx ps ↦ ⟨(hh s cx ps).routine.weaken (fun _ ↦ id) fun _ ↦ False.elim⟩

/-- A handler that steers keeps to its page. -/
theorem Handler.Steering.performing {calls : ActionCall → Prop} {h : Handler}
    (hh : h.Steering calls) : h.Performing calls :=
  fun s cx ps ↦ ⟨(hh s cx ps).routine.weaken (fun _ ↦ Command.Steers.keepsPage) fun _ ↦ id⟩

namespace Action

variable {σ : Type} {s : Surroundings σ} {cx : Context} {page : Option PageId}

/-! ### Branches and loops -/

/-- The branches and loops. -/
def blockActions : List String :=
  ["if", "ifElse", "for", "forEach", "while"]

private theorem getText_steers {part : Action Unit → Prop} {key : String} :
    MadeOf s (Command.Steers page) part (getText key) (fun _ ↦ True) :=
  .bind (.command (.get key)) fun _ _ ↦ .pure trivial

private theorem file_steers {part : Action Unit → Prop} {action operation : String}
    {call : FileCall} :
    MadeOf s (Command.Steers page) part (file action operation call) (fun _ ↦ True) :=
  .bind (.command (.file call)) fun _ _ ↦ .orFail

private theorem pathExists_steers {part : Action Unit → Prop} {path : String} :
    MadeOf s (Command.Steers page) part (pathExists path) (fun _ ↦ True) := by
  refine .bind (.command (.file _)) fun reply _ ↦ ?_
  split
  · exact .pure trivial
  · exact .pure trivial

private theorem onPage_steers {part : Action Unit → Prop} {p : PageId} {call : PageCall}
    {toError : PageError → ActionError} (h : page = some p) :
    MadeOf s (Command.Steers page) part (onPage p call toError) (fun _ ↦ True) :=
  .bind (.command (.onPage h call)) fun _ _ ↦ .orFail

/-- What branches and loops are made of. -/
private def Blocks {α : Type} (s : Surroundings σ) (cx : Context) (x : Action α) : Prop :=
  MadeOf s (Command.Steers cx.page) (cx.Performs fun _ ↦ True) x (fun _ ↦ True)

private theorem runBlock_blocks (actions : List ActionCall) :
    Blocks s cx (cx.runBlock actions) := by
  induction actions with
  | nil => exact .pure trivial
  | cons call rest ih => exact .bind (.performed ⟨call, trivial, rfl⟩) fun _ _ ↦ ih

private theorem showEnd_blocks {text : String} {block : Action Unit} (h : Blocks s cx block) :
    Blocks s cx (showEnd text block) :=
  .bind (.indented .indentIn .indentOut h) fun _ _ ↦ .command (.display _)

private theorem conditionHolds_blocks {action condition : String} :
    Blocks s cx (conditionHolds action condition) :=
  .bind (.command (.get _)) fun _ _ ↦ .orFail

theorem branch_steering (action : String) (hasElse : Bool) :
    Handler.Steering (fun _ ↦ True) (branch action hasElse) := by
  intro σ s cx ps
  refine .bind .ofExcept fun condition _ ↦ ?_
  refine .bind .ofExcept fun actions _ ↦ ?_
  refine .bind .ofExcept fun elseActions _ ↦ ?_
  refine .bind (.command (.display _)) fun _ _ ↦ ?_
  refine .bind conditionHolds_blocks fun holds _ ↦ ?_
  refine .ite ?_ ?_
  · exact .bind (.command (.display _)) fun _ _ ↦ showEnd_blocks (runBlock_blocks actions)
  · refine .bind (.command (.display _)) fun _ _ ↦ ?_
    cases elseActions with
    | some block => exact showEnd_blocks (runBlock_blocks block)
    | none => exact .pure trivial

private theorem countingRounds_blocks (actions : List ActionCall) (limit step : Int) (count : Nat)
    (i : Int) : Blocks s cx (countingRounds cx actions limit step count i) := by
  induction count generalizing i with
  | zero => exact .pure trivial
  | succ count ih =>
    refine .bind (.command (.display _)) fun _ _ ↦ ?_
    refine .bind (.command (.handOn _)) fun _ _ ↦ ?_
    exact .bind (runBlock_blocks actions) fun _ _ ↦ ih (i + step)

theorem countingLoop_steering : Handler.Steering (fun _ ↦ True) countingLoop := by
  intro σ s cx ps
  refine .bind .ofExcept fun actions _ ↦ ?_
  exact .ite .throw_bind (showEnd_blocks (countingRounds_blocks actions _ _ _ _))

private theorem itemRounds_blocks (actions : List ActionCall) (key : String) (total n : Nat)
    (items : List Json) : Blocks s cx (itemRounds cx actions key total n items) := by
  induction items generalizing n with
  | nil => exact .pure trivial
  | cons item rest ih =>
    refine .bind (.command (.display _)) fun _ _ ↦ ?_
    refine .bind (.command (.handOn _)) fun _ _ ↦ ?_
    exact .bind (runBlock_blocks actions) fun _ _ ↦ ih (n + 1)

theorem itemLoop_steering : Handler.Steering (fun _ ↦ True) itemLoop := by
  intro σ s cx ps
  refine .bind .ofExcept fun key _ ↦ ?_
  refine .bind .ofExcept fun actions _ ↦ ?_
  refine .bind (.command (.get _)) fun value _ ↦ ?_
  split
  · exact showEnd_blocks (itemRounds_blocks actions key _ 1 _)
  · exact .throw
  · exact .throw

private theorem conditionRounds_blocks (actions : List ActionCall) (condition : String)
    (patience : Nat) : Blocks s cx (conditionRounds cx actions condition patience) := by
  induction patience with
  | zero => exact .unfinished
  | succ patience ih =>
    refine .bind conditionHolds_blocks fun holds _ ↦ ?_
    exact .ite (.bind (runBlock_blocks actions) fun _ _ ↦ ih) (.pure trivial)

theorem conditionLoop_steering : Handler.Steering (fun _ ↦ True) conditionLoop := by
  intro σ s cx ps
  refine .bind .ofExcept fun condition _ ↦ ?_
  refine .bind .ofExcept fun actions _ ↦ ?_
  exact showEnd_blocks (conditionRounds_blocks actions condition _)

/-! ### Methods of pages -/

/-- Calling a method of a page opens a page at most, apart from the call. -/
theorem callMethod_steering :
    Handler.Steering (fun call ↦ call.name = "newPage") callMethod := by
  intro σ s cx ps
  refine .bind .ofExcept fun method _ ↦ ?_
  refine .bind (.command (.display _)) fun _ _ ↦ ?_
  refine .ite ?_ ?_
  · exact .bind (.command .freshId) fun key _ ↦ .performed ⟨_, rfl, rfl⟩
  · refine .bind .needPage fun page hpage ↦ ?_
    refine .bind (pageMethod_madeOf (.onPage hpage) .sleep _ _ _) fun outcome _ ↦ ?_
    split
    · exact .command (.handOn _)
    · exact .command (.display _)

/-! ### Logging in -/

namespace Login

/-- The actions that a login performs. -/
def performed : List String :=
  ["puppeteer", "type", "click", "createDir"]

/-- What a login is made of. -/
private def Steps {α : Type} (s : Surroundings σ) (cx : Context) (x : Action α) : Prop :=
  MadeOf s (Command.Steers cx.page) (cx.Performs (·.name ∈ performed)) x (fun _ ↦ True)

private theorem invoke_steps {name : String} {ps : Members} (h : name ∈ performed) :
    Steps s cx (cx.invoke name ps) :=
  .performed ⟨_, h, rfl⟩

section Page

variable {p : PageId} (hpage : cx.page = some p)

include hpage

private theorem awaitVisible_steps {selector : String} {timeout : Nat} :
    Steps s cx (awaitVisible p selector timeout) :=
  .bind (onPage_steers hpage) fun _ _ ↦ .pure trivial

private theorem restore_steps {cache : String} {name : Option String} :
    Steps s cx (restore p cache name) := by
  refine .bind pathExists_steers fun found _ ↦ ?_
  refine .ite ?_ (.pure trivial)
  refine .bind (.command (.display _)) fun _ _ ↦ ?_
  refine .bind file_steers fun text _ ↦ ?_
  refine .bind (.command .now) fun now _ ↦ ?_
  refine .ite ?_ ?_
  · refine .bind (onPage_steers hpage) fun _ _ ↦ ?_
    exact .bind (.command (.display _)) fun _ _ ↦ .pure trivial
  · refine .bind file_steers fun _ _ ↦ ?_
    exact .bind (.command (.display _)) fun _ _ ↦ .pure trivial

private theorem saveCookies_steps {cache : String} : Steps s cx (saveCookies cx p cache) := by
  refine .bind (onPage_steers hpage) fun cookies _ ↦ ?_
  refine .ite (.pure trivial) ?_
  have hwrite {content : ByteArray} : Steps s cx (do
      let _ ← file "login" "write" (.write cache content)
      display ": Cookies saved") :=
    .bind file_steers fun _ _ ↦ .command (.display _)
  split
  · exact hwrite
  · refine .bind pathExists_steers fun found _ ↦ ?_
    refine .ite ?_ hwrite
    exact .bind (invoke_steps (by decide)) fun _ _ ↦ hwrite

private theorem submit_steps {login : Login} {cache : String} :
    Steps s cx (submit cx p login cache) := by
  refine .bind (invoke_steps (by decide)) fun _ _ ↦ ?_
  refine .bind (.command (.display _)) fun _ _ ↦ ?_
  refine .bind (awaitVisible_steps hpage) fun _ _ ↦ ?_
  refine .bind (invoke_steps (by decide)) fun _ _ ↦ ?_
  refine .bind (awaitVisible_steps hpage) fun _ _ ↦ ?_
  refine .bind (invoke_steps (by decide)) fun _ _ ↦ ?_
  refine .bind (.command (.display _)) fun _ _ ↦ ?_
  refine .bind (awaitVisible_steps hpage) fun _ _ ↦ ?_
  refine .bind (invoke_steps (by decide)) fun _ _ ↦ ?_
  refine .bind (.command (.display _)) fun _ _ ↦ ?_
  exact .bind (onPage_steers hpage) fun _ _ ↦ saveCookies_steps hpage

end Page
end Login

/-- A login waits and handles cookies on its own page, and performs a few actions. -/
theorem login_steering : Handler.Steering (·.name ∈ Login.performed) login := by
  intro σ s cx ps
  refine .bind .ofExcept fun login _ ↦ ?_
  refine .bind .needPage fun page hpage ↦ ?_
  refine .withRetries .display .sleep (.indented .indentIn .indentOut ?_)
  refine .bind getText_steers fun base _ ↦ ?_
  split
  · exact .throw
  · refine .bind (Login.restore_steps hpage) fun restored _ ↦ ?_
    refine .ite (.pure trivial) ?_
    exact .bind (Login.submit_steps hpage).outcome fun outcome _ ↦ .orFail

/-! ### All built-in actions -/

/-- The built-in actions by how they use pages. -/
inductive PageUse : String → Handler → Prop
  | alone {name : String} {h : Handler} (keeps : h.KeepsPage) : PageUse name h
  | block {name : String} {h : Handler} (hname : name ∈ blockActions)
      (performing : h.Performing fun _ ↦ True) : PageUse name h
  | callMethod : PageUse "puppeteer" callMethod
  | login : PageUse "login" login
  | newPage : PageUse "newPage" newPage
  | closePage : PageUse "closePage" closePage
  | switchPage : PageUse "switchPage" switchPage

/-- Every built-in action is of one of these kinds. -/
theorem builtins_pageUse : ∀ p ∈ builtins, PageUse p.1 p.2 := by
  simp only [builtins, List.forall_mem_cons]
  exact ⟨.alone setVariable_keepsPage, .alone getVariable_keepsPage,
    .alone deleteVariable_keepsPage, .alone transferVariable_keepsPage,
    .alone appendToVariable_keepsPage, .alone countStart_keepsPage,
    .alone countIncrement_keepsPage, .alone countDecrement_keepsPage,
    .block (by decide) (Handler.Steering.performing (branch_steering _ _)),
    .block (by decide) (Handler.Steering.performing (branch_steering _ _)),
    .block (by decide) countingLoop_steering.performing,
    .block (by decide) itemLoop_steering.performing,
    .block (by decide) conditionLoop_steering.performing,
    .alone setBaseDir_keepsPage, .alone setCurrentDir_keepsPage, .alone resetCurrentDir_keepsPage,
    .alone backToParentDir_keepsPage, .alone createDir_keepsPage, .alone deleteFolder_keepsPage,
    .alone listFolders_keepsPage, .alone createFile_keepsPage, .alone readFromText_keepsPage,
    .alone saveToText_keepsPage, .alone appendToText_keepsPage, .alone deleteFile_keepsPage,
    .alone fileExists_keepsPage, .alone checkStringInFile_keepsPage, .alone download_keepsPage,
    .callMethod, .newPage, .closePage, .switchPage,
    .alone screenshot_keepsPage, .alone screenshotElement_keepsPage,
    .alone getElements_keepsPage, .alone getChildren_keepsPage, .alone elementExists_keepsPage,
    .alone click_keepsPage, .alone clickAll_keepsPage, .alone scrollWaitClick_keepsPage,
    .alone typeText_keepsPage, .login, .alone sleep_keepsPage, .alone log_keepsPage,
    .alone sanitizeString_keepsPage, .alone replaceString_keepsPage,
    .alone matchFromString_keepsPage, .alone matchFromSelector_keepsPage,
    .alone random_keepsPage, .alone uuid_keepsPage, .alone getExtension_keepsPage,
    .alone userInput_keepsPage, List.forall_mem_nil _⟩

/-- What an engine with the built-in actions only finds under a name uses pages in one of these
ways. -/
theorem pageUse_of_get? {e : Engine} (hreg : e.registry = builtinRegistry) {name : String}
    {h : Handler} (hget : e.registry.get? name = some h) : PageUse name h :=
  builtins_pageUse _ (Engine.mem_builtins_of_get? hreg hget)

end Action
end WebRecipe
