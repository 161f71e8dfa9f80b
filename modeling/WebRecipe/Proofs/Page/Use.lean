import WebRecipe.Action.Files
import WebRecipe.Action.Pages
import WebRecipe.Action.Interaction
import WebRecipe.Action.Values
import WebRecipe.Action.Variables
import WebRecipe.Proofs.Routine.Parts

/-!
# Actions and their page

An action is given the page that was active when it was reached. Most actions use no other page, and
leave alone which pages are open and which one is active, whatever they are given.

## Main definitions

* `Command.OnPage`: a command that keeps to a page.
* `Handler.KeepsPage`: an action that keeps to its page and performs no other action.

## Main results

* `Action.click_keepsPage`, `Action.readFromText_keepsPage`, …: one statement for each action.
* `Action.pageMethod_madeOf`: the methods of pages that are called by name.
-/

namespace WebRecipe

/-! ### Commands on a page -/

/-- The page that a command is carried out on. -/
def Command.page? : Command → Option PageId
  | closePage p => some p
  | page p _ => some p
  | _ => none

/-- An access that changes which pages are open, or which one is active. -/
def StoreAccess.changesPages : StoreAccess → Bool
  | insertPage .. => true
  | removePage _ => true
  | activatePage _ => true
  | takePages => true
  | _ => false

/-- A command that is carried out on no other page than a given one, opens and closes none, and
changes neither which pages are open nor which one is active. -/
def Command.OnPage (page : Option PageId) : Command → Prop
  | store a => a.changesPages = false
  | openPage => False
  | closePage _ => False
  | .page p _ => page = some p
  | _ => True

/-- A handler that keeps to the page of its context and performs no other action. -/
def Handler.KeepsPage (h : Handler) : Prop :=
  ∀ {σ : Type} (s : Surroundings σ) (cx : Context) ps,
    Action.MadeOf s (Command.OnPage cx.page) (fun _ ↦ False) (h cx ps) (fun _ ↦ True)

/-! ### What actions are made of -/

namespace Action.MadeOf

variable {σ : Type} {s : Surroundings σ} {page : Option PageId} {part : Action Unit → Prop}

theorem display {line : String} :
    MadeOf s (Command.OnPage page) part (Action.display line) (fun _ ↦ True) :=
  command trivial

theorem put {key : String} {v : Json} :
    MadeOf s (Command.OnPage page) part (Action.put key v) (fun _ ↦ True) :=
  command rfl

theorem access {a : StoreAccess} (h : a.changesPages = false) :
    MadeOf s (Command.OnPage page) part (Action.access a) (fun _ ↦ True) :=
  command h

theorem getText {key : String} :
    MadeOf s (Command.OnPage page) part (Action.getText key) (fun _ ↦ True) :=
  bind (access rfl) fun _ _ ↦ pure trivial

theorem onPage {p : PageId} {call : PageCall} {toError : PageError → ActionError}
    (h : page = some p) :
    MadeOf s (Command.OnPage page) part (Action.onPage p call toError) (fun _ ↦ True) :=
  bind (command h) fun _ _ ↦ orFail

theorem needPage {may : Command → Prop} {cx : Context} {action : String} :
    MadeOf s may part (Action.ofExcept (cx.needPage action)) (fun p ↦ cx.page = some p) := by
  refine ofExcept.mono fun p hp ↦ ?_
  rw [Context.needPage] at hp
  split at hp
  case h_1 q hpage =>
    cases hp
    exact hpage
  case h_2 => cases hp

theorem tryFile {call : FileCall} :
    MadeOf s (Command.OnPage page) part (Action.tryFile call) (fun _ ↦ True) :=
  command trivial

theorem file {action operation : String} {call : FileCall} :
    MadeOf s (Command.OnPage page) part (Action.file action operation call) (fun _ ↦ True) :=
  bind tryFile fun _ _ ↦ orFail

theorem pathExists {path : String} :
    MadeOf s (Command.OnPage page) part (Action.pathExists path) (fun _ ↦ True) := by
  refine bind tryFile fun reply _ ↦ ?_
  split
  · exact pure trivial
  · exact pure trivial

theorem withRetries {may : Command → Prop} {options : RetryOptions} {attempt : Action Unit}
    {post : Unit → Prop} (hdisplay : ∀ line, may (.display line)) (hsleep : ∀ ms, may (.sleep ms))
    (h : MadeOf s may part attempt post) :
    MadeOf s may part (Action.withRetries options attempt) post := by
  refine ⟨.attemptFrom (fun _ ↦ h.routine) (fun n delay ↦ ?_) _ _ _⟩
  refine (Routine.MadeOf.command (hdisplay _)).bind fun _ _ ↦ ?_
  exact .command (hsleep _)

end Action.MadeOf

namespace Action

variable {σ : Type} {s : Surroundings σ} {page : Option PageId} {part : Action Unit → Prop}

/-! ### Variables -/

private theorem learn_onPage (key : String) (v : Option Json) :
    MadeOf s (Command.OnPage page) part (learn key v) (fun _ ↦ True) := by
  cases v with
  | some v => exact .put
  | none => exact .bind (.access rfl) fun _ _ ↦ .pure trivial

theorem setVariable_keepsPage : Handler.KeepsPage setVariable := by
  intro σ s cx ps
  refine .bind .ofExcept fun key _ ↦ ?_
  exact .bind .display fun _ _ ↦ learn_onPage key _

theorem getVariable_keepsPage : Handler.KeepsPage getVariable := by
  intro σ s cx ps
  refine .bind .ofExcept fun key _ ↦ ?_
  refine .bind .display fun _ _ ↦ ?_
  refine .bind (.access rfl) fun value _ ↦ ?_
  split
  · exact learn_onPage _ _
  · exact learn_onPage _ _

theorem deleteVariable_keepsPage : Handler.KeepsPage deleteVariable := by
  intro σ s cx ps
  refine .bind .ofExcept fun key _ ↦ ?_
  refine .bind .display fun _ _ ↦ ?_
  exact .bind (.access rfl) fun _ _ ↦ .pure trivial

theorem transferVariable_keepsPage : Handler.KeepsPage transferVariable := by
  intro σ s cx ps
  refine .bind .ofExcept fun source _ ↦ ?_
  refine .bind .ofExcept fun target _ ↦ ?_
  refine .bind .display fun _ _ ↦ ?_
  refine .bind (.access rfl) fun value _ ↦ ?_
  split
  · exact learn_onPage target _
  · exact .bind .ofExcept fun member _ ↦ learn_onPage target _
  · exact learn_onPage target _

theorem appendToVariable_keepsPage : Handler.KeepsPage appendToVariable := by
  intro σ s cx ps
  refine .bind .ofExcept fun key _ ↦ ?_
  exact .bind .display fun _ _ ↦ .access rfl

theorem countStart_keepsPage : Handler.KeepsPage countStart := by
  intro σ s cx ps
  refine .bind .ofExcept fun key _ ↦ ?_
  exact .bind .display fun _ _ ↦ .put

private theorem addToCounter_onPage {action key : String} {difference : Float} :
    MadeOf s (Command.OnPage page) part (addToCounter action key difference) (fun _ ↦ True) := by
  refine .bind (.access rfl) fun value _ ↦ ?_
  split
  · exact .throw
  · exact .bind .put fun _ _ ↦ .pure trivial

theorem countIncrement_keepsPage : Handler.KeepsPage countIncrement := by
  intro σ s cx ps
  refine .bind .ofExcept fun key _ ↦ ?_
  exact .bind addToCounter_onPage fun count _ ↦ .display

theorem countDecrement_keepsPage : Handler.KeepsPage countDecrement := by
  intro σ s cx ps
  refine .bind .ofExcept fun key _ ↦ ?_
  exact .bind addToCounter_onPage fun count _ ↦ .display

/-! ### Values -/

theorem sleep_keepsPage : Handler.KeepsPage sleep := by
  intro σ s cx ps
  exact .bind .display fun _ _ ↦ .command trivial

theorem log_keepsPage : Handler.KeepsPage log := by
  intro σ s cx ps
  exact .bind .ofExcept fun message _ ↦ .display

theorem sanitizeString_keepsPage : Handler.KeepsPage sanitizeString := by
  intro σ s cx ps
  exact .bind .ofExcept fun text _ ↦ .put

theorem replaceString_keepsPage : Handler.KeepsPage replaceString := by
  intro σ s cx ps
  refine .bind .ofExcept fun text _ ↦ ?_
  refine .bind .ofExcept fun search _ ↦ ?_
  exact .bind .ofExcept fun replacement _ ↦ .put

theorem matchFromString_keepsPage : Handler.KeepsPage matchFromString := by
  intro σ s cx ps
  refine .bind .ofExcept fun text _ ↦ ?_
  refine .bind .ofExcept fun source _ ↦ ?_
  exact .bind .ofExcept fun pattern _ ↦ .put

theorem matchFromSelector_keepsPage : Handler.KeepsPage matchFromSelector := by
  intro σ s cx ps
  refine .bind .ofExcept fun selector _ ↦ ?_
  refine .bind .ofExcept fun source _ ↦ ?_
  refine .bind .ofExcept fun pattern _ ↦ ?_
  refine .bind .needPage fun page hpage ↦ ?_
  refine .bind (.command hpage) fun found _ ↦ ?_
  split
  · exact .put
  · exact .bind .display fun _ _ ↦ .put

theorem random_keepsPage : Handler.KeepsPage random := by
  intro σ s cx ps
  refine .bind .display fun _ _ ↦ ?_
  exact .bind (.command trivial) fun roll _ ↦ .put

theorem uuid_keepsPage : Handler.KeepsPage uuid := by
  intro σ s cx ps
  refine .bind (.command trivial) fun id _ ↦ ?_
  exact .bind .put fun _ _ ↦ .display

theorem getExtension_keepsPage : Handler.KeepsPage getExtension := by
  intro σ s cx ps
  exact .bind .ofExcept fun text _ ↦ .put

theorem userInput_keepsPage : Handler.KeepsPage userInput := by
  intro σ s cx ps
  refine .bind .ofExcept fun query _ ↦ ?_
  refine .bind (.access rfl) fun depth _ ↦ ?_
  refine .bind (.command trivial) fun reply _ ↦ ?_
  exact .bind .orFail fun answer _ ↦ .put

/-! ### Files and directories -/

private theorem baseDir_onPage {action : String} :
    MadeOf s (Command.OnPage page) part (baseDir action) (fun _ ↦ True) := by
  refine .bind .getText fun v _ ↦ ?_
  split
  · exact .pure trivial
  · exact .throw

private theorem currentDir_onPage {action : String} :
    MadeOf s (Command.OnPage page) part (currentDir action) (fun _ ↦ True) := by
  refine .bind .getText fun v _ ↦ ?_
  split
  · exact .pure trivial
  · exact baseDir_onPage

private theorem startDir_onPage {action : String} {ps : Members} :
    MadeOf s (Command.OnPage page) part (startDir action ps) (fun _ ↦ True) :=
  .ite baseDir_onPage currentDir_onPage

private theorem confined_onPage {action dir path : String} :
    MadeOf s (Command.OnPage page) part (confined action dir path) (fun _ ↦ True) := by
  refine .bind baseDir_onPage fun base _ ↦ ?_
  split
  · exact .pure trivial
  · exact .throw

private theorem inCurrent_onPage {action path : String} :
    MadeOf s (Command.OnPage page) part (inCurrent action path) (fun _ ↦ True) :=
  .bind currentDir_onPage fun _ _ ↦ confined_onPage

theorem setBaseDir_keepsPage : Handler.KeepsPage setBaseDir := by
  intro σ s cx ps
  refine .bind .ofExcept fun dir _ ↦ ?_
  split
  · exact .throw
  · refine .bind .file fun _ _ ↦ ?_
    exact .bind .put fun _ _ ↦ .put

theorem setCurrentDir_keepsPage : Handler.KeepsPage setCurrentDir := by
  intro σ s cx ps
  refine .bind .ofExcept fun dir _ ↦ ?_
  refine .bind startDir_onPage fun start _ ↦ ?_
  refine .bind confined_onPage fun target _ ↦ ?_
  refine .bind .tryFile fun reply _ ↦ ?_
  split
  · exact .bind .display fun _ _ ↦ .put
  · exact .throw

theorem resetCurrentDir_keepsPage : Handler.KeepsPage resetCurrentDir := by
  intro σ s cx ps
  exact .bind baseDir_onPage fun base _ ↦ .put

theorem backToParentDir_keepsPage : Handler.KeepsPage backToParentDir := by
  intro σ s cx ps
  refine .bind baseDir_onPage fun base _ ↦ ?_
  exact .bind currentDir_onPage fun current _ ↦ .put

theorem createDir_keepsPage : Handler.KeepsPage createDir := by
  intro σ s cx ps
  refine .bind .ofExcept fun dir _ ↦ ?_
  refine .bind .display fun _ _ ↦ ?_
  refine .bind startDir_onPage fun start _ ↦ ?_
  exact .bind confined_onPage fun target _ ↦ .file

theorem deleteFolder_keepsPage : Handler.KeepsPage deleteFolder := by
  intro σ s cx ps
  refine .bind .ofExcept fun name _ ↦ ?_
  refine .bind inCurrent_onPage fun target _ ↦ ?_
  refine .bind .display fun _ _ ↦ ?_
  refine .bind baseDir_onPage fun base _ ↦ ?_
  refine .ite .throw_bind ?_
  exact .bind .pathExists fun found _ ↦ .ite .file (.pure trivial)

theorem listFolders_keepsPage : Handler.KeepsPage listFolders := by
  intro σ s cx ps
  refine .bind currentDir_onPage fun current _ ↦ ?_
  refine .bind .display fun _ _ ↦ ?_
  exact .bind .file fun found _ ↦ .put

theorem createFile_keepsPage : Handler.KeepsPage createFile := by
  intro σ s cx ps
  refine .bind .ofExcept fun name _ ↦ ?_
  refine .bind inCurrent_onPage fun path _ ↦ ?_
  exact .bind .display fun _ _ ↦ .file

theorem readFromText_keepsPage : Handler.KeepsPage readFromText := by
  intro σ s cx ps
  refine .bind .ofExcept fun name _ ↦ ?_
  refine .bind inCurrent_onPage fun path _ ↦ ?_
  refine .bind .display fun _ _ ↦ ?_
  exact .bind .file fun content _ ↦ .ite .put .put

theorem saveToText_keepsPage : Handler.KeepsPage saveToText := by
  intro σ s cx ps
  refine .bind .ofExcept fun key _ ↦ ?_
  refine .bind .ofExcept fun name _ ↦ ?_
  refine .bind (.access rfl) fun value _ ↦ ?_
  refine .ite (.bind inCurrent_onPage fun path _ ↦ ?_) (.pure trivial)
  exact .bind .display fun _ _ ↦ .file

theorem appendToText_keepsPage : Handler.KeepsPage appendToText := by
  intro σ s cx ps
  refine .bind .ofExcept fun key _ ↦ ?_
  refine .bind .ofExcept fun name _ ↦ ?_
  refine .bind (.access rfl) fun value _ ↦ ?_
  split
  · exact .pure trivial
  refine .ite (.bind inCurrent_onPage fun path _ ↦ ?_) (.pure trivial)
  exact .bind .display fun _ _ ↦ .file

theorem deleteFile_keepsPage : Handler.KeepsPage deleteFile := by
  intro σ s cx ps
  refine .bind .ofExcept fun name _ ↦ ?_
  refine .bind inCurrent_onPage fun path _ ↦ ?_
  refine .bind .display fun _ _ ↦ ?_
  exact .bind .pathExists fun found _ ↦ .ite .file (.pure trivial)

theorem fileExists_keepsPage : Handler.KeepsPage fileExists := by
  intro σ s cx ps
  refine .bind .ofExcept fun name _ ↦ ?_
  refine .bind inCurrent_onPage fun path _ ↦ ?_
  refine .bind .display fun _ _ ↦ ?_
  exact .bind .pathExists fun found _ ↦ .put

theorem checkStringInFile_keepsPage : Handler.KeepsPage checkStringInFile := by
  intro σ s cx ps
  refine .bind .ofExcept fun name _ ↦ ?_
  refine .bind .ofExcept fun needle _ ↦ ?_
  refine .bind inCurrent_onPage fun path _ ↦ ?_
  refine .bind .display fun _ _ ↦ ?_
  exact .bind .file fun content _ ↦ .put

private theorem saveChunks_onPage (path : String) (total : Option Nat) (received reported : Nat)
    (chunks : List ByteArray) :
    MadeOf s (Command.OnPage page) part (saveChunks path total received reported chunks)
      (fun _ ↦ True) := by
  induction chunks generalizing received reported with
  | nil => exact .pure trivial
  | cons chunk rest ih =>
    refine .bind .file fun _ _ ↦ ?_
    cases total with
    | none => exact ih _ _
    | some t => exact .ite (.bind .display fun _ _ ↦ ih _ _) (ih _ _)

theorem download_keepsPage : Handler.KeepsPage download := by
  intro σ s cx ps
  refine .bind .ofExcept fun url _ ↦ ?_
  refine .ite .throw_bind ?_
  refine .bind inCurrent_onPage fun path _ ↦ ?_
  refine .bind .display fun _ _ ↦ ?_
  refine .bind .orFail fun target _ ↦ ?_
  refine .bind (.command trivial) fun reply _ ↦ ?_
  refine .bind .orFail fun response _ ↦ ?_
  refine .bind .file fun _ _ ↦ ?_
  refine .bind (saveChunks_onPage path _ 0 0 _) fun _ _ ↦ ?_
  exact .ite .throw (.pure trivial)

/-! ### Elements -/

theorem click_keepsPage : Handler.KeepsPage click := by
  intro σ s cx ps
  refine .bind .ofExcept fun selector _ ↦ ?_
  refine .bind .needPage fun page hpage ↦ ?_
  refine .withRetries (fun _ ↦ trivial) (fun _ ↦ trivial) (.ite ?_ ?_)
  · exact .bind (.onPage hpage) fun _ _ ↦ .onPage hpage
  · refine .bind (.onPage hpage) fun count _ ↦ ?_
    refine .ite .throw_bind ?_
    cases ps.text? "text" with
    | none => exact .throw
    | some text =>
      refine .bind (.onPage hpage) fun texts _ ↦ ?_
      split
      · exact .onPage hpage
      · exact .throw

private theorem clickFrom_onPage {p : PageId} (hpage : page = some p) (selector : String)
    (count index : Nat) :
    MadeOf s (Command.OnPage page) part (clickFrom p selector count index) (fun _ ↦ True) := by
  induction count generalizing index with
  | zero => exact .pure trivial
  | succ count ih =>
    refine .bind (.onPage hpage) fun _ _ ↦ ?_
    exact .bind (.onPage hpage) fun _ _ ↦ ih (index + 1)

theorem clickAll_keepsPage : Handler.KeepsPage clickAll := by
  intro σ s cx ps
  refine .bind .ofExcept fun selector _ ↦ ?_
  refine .bind .needPage fun page hpage ↦ ?_
  exact .bind (.onPage hpage) fun count _ ↦ clickFrom_onPage hpage selector count 0

theorem scrollWaitClick_keepsPage : Handler.KeepsPage scrollWaitClick := by
  intro σ s cx ps
  refine .bind .ofExcept fun selector _ ↦ ?_
  refine .bind .needPage fun page hpage ↦ ?_
  refine .bind (.onPage hpage) fun _ _ ↦ ?_
  exact .bind (.command trivial) fun _ _ ↦ .onPage hpage

theorem typeText_keepsPage : Handler.KeepsPage typeText := by
  intro σ s cx ps
  refine .bind .ofExcept fun selector _ ↦ ?_
  refine .bind .ofExcept fun text _ ↦ ?_
  refine .bind .needPage fun page hpage ↦ ?_
  refine .withRetries (fun _ ↦ trivial) (fun _ ↦ trivial) (.bind .display fun _ _ ↦ ?_)
  exact .bind (.onPage hpage) fun _ _ ↦ .onPage hpage

theorem getElements_keepsPage : Handler.KeepsPage getElements := by
  intro σ s cx ps
  refine .bind .ofExcept fun selector _ ↦ ?_
  refine .bind .needPage fun page hpage ↦ ?_
  exact .bind (.onPage hpage) fun texts _ ↦ .put

theorem getChildren_keepsPage : Handler.KeepsPage getChildren := by
  intro σ s cx ps
  refine .bind .ofExcept fun parent _ ↦ ?_
  refine .bind .ofExcept fun child _ ↦ ?_
  refine .bind .needPage fun page hpage ↦ ?_
  exact .bind (.onPage hpage) fun groups _ ↦ .put

theorem elementExists_keepsPage : Handler.KeepsPage elementExists := by
  intro σ s cx ps
  refine .bind .ofExcept fun selector _ ↦ ?_
  refine .bind .needPage fun page hpage ↦ ?_
  exact .bind (.onPage hpage) fun count _ ↦ .put

/-! ### Pictures -/

private theorem picturePath_onPage {action name : String} {format : ImageFormat} :
    MadeOf s (Command.OnPage page) part (picturePath action name format) (fun _ ↦ True) := by
  refine .bind .getText fun v _ ↦ ?_
  split
  · exact .pure trivial
  · exact .throw

private theorem takePicture_onPage {action : String} {p : PageId} {request : ScreenshotRequest}
    (hpage : page = some p) :
    MadeOf s (Command.OnPage page) part (takePicture action p request) (fun _ ↦ True) := by
  refine .bind (.onPage hpage) fun picture _ ↦ ?_
  exact .bind .tryFile fun reply _ ↦ .orFail

theorem screenshot_keepsPage : Handler.KeepsPage screenshot := by
  intro σ s cx ps
  refine .bind .ofExcept fun name _ ↦ ?_
  refine .bind picturePath_onPage fun path _ ↦ ?_
  refine .bind .display fun _ _ ↦ ?_
  exact .bind .needPage fun page hpage ↦ takePicture_onPage hpage

theorem screenshotElement_keepsPage : Handler.KeepsPage screenshotElement := by
  intro σ s cx ps
  refine .bind .ofExcept fun name _ ↦ ?_
  refine .bind .ofExcept fun selector _ ↦ ?_
  refine .bind picturePath_onPage fun path _ ↦ ?_
  refine .bind .display fun _ _ ↦ ?_
  refine .bind .needPage fun page hpage ↦ ?_
  exact .bind (.onPage hpage) fun box _ ↦ takePicture_onPage hpage

/-! ### Methods of pages -/

section Methods

variable {may : Command → Prop} {p : PageId}

private theorem done_madeOf {α : Type} {o : Except PageError α} :
    (ExceptT.mk (.done o) : PageMethod.Outcome α).run.MadeOf s may part (fun _ ↦ True) :=
  .done trivial

variable (hcall : ∀ call, may (.page p call))

include hcall

private theorem ask_madeOf (call : PageCall) :
    (PageMethod.ask p call).run.MadeOf s may part (fun _ ↦ True) :=
  .command (c := .page p call) (hcall call)

private theorem tell_madeOf {call : PageCall} :
    (PageMethod.tell p call).run.MadeOf s may part (fun _ ↦ True) :=
  .run_bind (ask_madeOf hcall call) fun _ ↦ .done trivial

/-- A method that is called by name is carried out on the page that it is called of, or sleeps. -/
theorem pageMethod_madeOf (hsleep : ∀ ms, may (.sleep ms)) (method : String)
    (inner : Option String) (args : List Json) :
    MadeOf s may part (ExceptT.lift (PageMethod.call p method inner args).run)
      (fun _ ↦ True) := by
  refine .lift ?_
  unfold PageMethod.call
  split
  · exact .done trivial
  split
  · exact .run_bind done_madeOf fun url ↦ tell_madeOf hcall
  · exact tell_madeOf hcall
  · exact tell_madeOf hcall
  · exact tell_madeOf hcall
  · exact .run_bind (ask_madeOf hcall .title) fun title ↦ .done trivial
  · exact .run_bind (ask_madeOf hcall .url) fun url ↦ .done trivial
  · exact .run_bind (ask_madeOf hcall .content) fun content ↦ .done trivial
  · exact .run_bind done_madeOf fun script ↦ ask_madeOf hcall (.evaluate script)
  · exact tell_madeOf hcall
  · exact .run_bind done_madeOf fun selector ↦ tell_madeOf hcall
  · refine .run_bind ?_ fun _ ↦ .done trivial
    exact (Routine.MadeOf.command (hsleep _)).bind fun _ _ ↦ .done trivial
  · exact tell_madeOf hcall
  · exact .done trivial

end Methods

end Action
end WebRecipe
