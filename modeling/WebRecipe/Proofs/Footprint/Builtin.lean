import WebRecipe.Action.Builtin
import WebRecipe.Action.Files
import WebRecipe.Action.Pages
import WebRecipe.Engine
import WebRecipe.Proofs.Footprint.Pages
import WebRecipe.Proofs.Footprint.Values
import WebRecipe.Proofs.Routine.Footprint

/-!
# The built-in actions by what they do

Actions on files and directories touch files, hand on a value at most, and set no names but those of
the two directories. Of all built-in actions seven perform others: the branches and loops, the
login, and the methods of pages. Any other one acts alone, within a footprint.

## Main definitions

* `Handler.Alone`: the handler performs no other action, and keeps within a footprint.
* `Action.Builtin`: the built-in actions, those that act alone as one kind.

## Main results

* `Action.setBaseDir_within`, `Action.download_within`, …: one statement for each action on files.
* `Action.builtin_of_get?`: what an engine finds under a name.
-/

namespace WebRecipe.Action

variable {σ : Type} {s : Surroundings σ}

open Action.Within

/-! ### Finding paths -/

/-- What is said here of what actions on files are made of. -/
private def Fits {α : Type} (s : Surroundings σ) (x : Action α) : Prop :=
  Within s (Footprint.Covers .touching) ActionError.IsOwn x (fun _ ↦ True)

private theorem getText_within {key : String} : Fits s (getText key) :=
  .bind (.free rfl rfl rfl rfl) fun _ _ ↦ .pure trivial

private theorem baseDir_within {action : String} : Fits s (baseDir action) := by
  refine .bind getText_within fun v _ ↦ ?_
  split
  · exact .pure trivial
  · exact .throw trivial

private theorem currentDir_within {action : String} : Fits s (currentDir action) := by
  refine .bind getText_within fun v _ ↦ ?_
  split
  · exact .pure trivial
  · exact baseDir_within

private theorem startDir_within {action : String} {ps : Members} : Fits s (startDir action ps) :=
  .ite (fun _ ↦ baseDir_within) fun _ ↦ currentDir_within

private theorem confined_within {action dir path : String} : Fits s (confined action dir path) := by
  refine .bind baseDir_within fun base _ ↦ ?_
  split
  · exact .pure trivial
  · exact .throw trivial

private theorem inCurrent_within {action path : String} : Fits s (inCurrent action path) :=
  .bind currentDir_within fun _ _ ↦ confined_within

/-! ### Directories -/

theorem setBaseDir_within : Handler.Within .touching setBaseDir := by
  intro σ s cx ps
  refine .bind .text fun dir _ ↦ ?_
  split
  · exact .throw trivial
  · refine .bind (.file trivial) fun _ _ ↦ ?_
    exact .bind (.put (.inr (.inl rfl))) fun _ _ ↦ .put (.inr (.inr rfl))

theorem setCurrentDir_within : Handler.Within .touching setCurrentDir := by
  intro σ s cx ps
  refine .bind .text fun dir _ ↦ ?_
  refine .bind startDir_within fun start _ ↦ ?_
  refine .bind confined_within fun target _ ↦ ?_
  refine .bind (.tryFile trivial) fun reply _ ↦ ?_
  split
  · exact .bind (.display (by simp)) fun _ _ ↦ .put (.inr (.inr rfl))
  · exact .throw trivial

theorem resetCurrentDir_within : Handler.Within .touching resetCurrentDir := by
  intro σ s cx ps
  exact .bind baseDir_within fun base _ ↦ .put (.inr (.inr rfl))

theorem backToParentDir_within : Handler.Within .touching backToParentDir := by
  intro σ s cx ps
  refine .bind baseDir_within fun base _ ↦ ?_
  refine .bind currentDir_within fun current _ ↦ ?_
  exact .put (.inr (.inr rfl))

theorem createDir_within : Handler.Within .touching createDir := by
  intro σ s cx ps
  refine .bind .text fun dir _ ↦ ?_
  refine .bind (.display (by simp)) fun _ _ ↦ ?_
  refine .bind startDir_within fun start _ ↦ ?_
  refine .bind confined_within fun target _ ↦ ?_
  exact .file trivial

theorem deleteFolder_within : Handler.Within .touching deleteFolder := by
  intro σ s cx ps
  refine .bind .text fun name _ ↦ ?_
  refine .bind inCurrent_within fun target _ ↦ ?_
  refine .bind (.display (by simp)) fun _ _ ↦ ?_
  refine .bind baseDir_within fun base _ ↦ ?_
  refine .ite (fun _ ↦ .throw_bind trivial) fun _ ↦ ?_
  refine .bind (.pathExists trivial) fun found _ ↦ ?_
  exact .ite (fun _ ↦ .file trivial) fun _ ↦ .pure trivial

theorem listFolders_within : Handler.Within .touching listFolders := by
  intro σ s cx ps
  refine .bind currentDir_within fun current _ ↦ ?_
  refine .bind (.display (by simp)) fun _ _ ↦ ?_
  refine .bind (.file trivial) fun found _ ↦ ?_
  exact .put (.inl rfl)

/-! ### Files -/

theorem createFile_within : Handler.Within .touching createFile := by
  intro σ s cx ps
  refine .bind .text fun name _ ↦ ?_
  refine .bind inCurrent_within fun path _ ↦ ?_
  exact .bind (.display (by simp)) fun _ _ ↦ .file trivial

theorem readFromText_within : Handler.Within .touching readFromText := by
  intro σ s cx ps
  refine .bind .text fun name _ ↦ ?_
  refine .bind inCurrent_within fun path _ ↦ ?_
  refine .bind (.display (by simp)) fun _ _ ↦ ?_
  refine .bind (.file trivial) fun content _ ↦ ?_
  exact .ite (fun _ ↦ .put (.inl rfl)) fun _ ↦ .put (.inl rfl)

theorem saveToText_within : Handler.Within .touching saveToText := by
  intro σ s cx ps
  refine .bind .text fun key _ ↦ ?_
  refine .bind .text fun name _ ↦ ?_
  refine .bind (.free rfl rfl rfl rfl) fun value _ ↦ ?_
  refine .ite (fun _ ↦ ?_) fun _ ↦ .pure trivial
  refine .bind inCurrent_within fun path _ ↦ ?_
  exact .bind (.display (by simp)) fun _ _ ↦ .file trivial

theorem appendToText_within : Handler.Within .touching appendToText := by
  intro σ s cx ps
  refine .bind .text fun key _ ↦ ?_
  refine .bind .text fun name _ ↦ ?_
  refine .bind (.free rfl rfl rfl rfl) fun value _ ↦ ?_
  split
  · exact .pure trivial
  refine .ite (fun _ ↦ ?_) fun _ ↦ .pure trivial
  refine .bind inCurrent_within fun path _ ↦ ?_
  exact .bind (.display (by simp)) fun _ _ ↦ .file trivial

theorem deleteFile_within : Handler.Within .touching deleteFile := by
  intro σ s cx ps
  refine .bind .text fun name _ ↦ ?_
  refine .bind inCurrent_within fun path _ ↦ ?_
  refine .bind (.display (by simp)) fun _ _ ↦ ?_
  refine .bind (.pathExists trivial) fun found _ ↦ ?_
  exact .ite (fun _ ↦ .file trivial) fun _ ↦ .pure trivial

theorem fileExists_within : Handler.Within .touching fileExists := by
  intro σ s cx ps
  refine .bind .text fun name _ ↦ ?_
  refine .bind inCurrent_within fun path _ ↦ ?_
  refine .bind (.display (by simp)) fun _ _ ↦ ?_
  exact .bind (.pathExists trivial) fun found _ ↦ .put (.inl rfl)

theorem checkStringInFile_within : Handler.Within .touching checkStringInFile := by
  intro σ s cx ps
  refine .bind .text fun name _ ↦ ?_
  refine .bind .text fun needle _ ↦ ?_
  refine .bind inCurrent_within fun path _ ↦ ?_
  refine .bind (.display (by simp)) fun _ _ ↦ ?_
  exact .bind (.file trivial) fun content _ ↦ .put (.inl rfl)

private theorem saveChunks_within (path : String) (total : Option Nat) (received reported : Nat)
    (chunks : List ByteArray) : Fits s (saveChunks path total received reported chunks) := by
  induction chunks generalizing received reported with
  | nil => exact .pure trivial
  | cons chunk rest ih =>
    refine .bind (.file trivial) fun _ _ ↦ ?_
    cases total with
    | none => exact ih _ _
    | some t =>
      refine .ite (fun _ ↦ ?_) fun _ ↦ ih _ _
      exact .bind (.display (by simp)) fun _ _ ↦ ih _ _

theorem download_within : Handler.Within .touching download := by
  intro σ s cx ps
  refine .bind .text fun url _ ↦ ?_
  refine .ite (fun _ ↦ .throw_bind trivial) fun _ ↦ ?_
  refine .bind inCurrent_within fun path _ ↦ ?_
  refine .bind (.display (by simp)) fun _ _ ↦ ?_
  refine .bind (.orFail fun _ ↦ trivial) fun target _ ↦ ?_
  refine .bind (.free rfl rfl rfl rfl) fun reply _ ↦ ?_
  refine .bind (.orFail fun _ ↦ trivial) fun response _ ↦ ?_
  refine .bind (.file trivial) fun _ _ ↦ ?_
  refine .bind (saveChunks_within path _ 0 0 _) fun _ _ ↦ ?_
  exact .ite (fun _ ↦ .throw trivial) fun _ ↦ .pure trivial

/-! ### Pictures -/

private theorem picturePath_within {action name : String} {format : ImageFormat} :
    Fits s (picturePath action name format) := by
  refine .bind getText_within fun v _ ↦ ?_
  split
  · exact .pure trivial
  · exact .throw trivial

private theorem takePicture_within {action : String} {page : PageId}
    {request : ScreenshotRequest} : Fits s (takePicture action page request) := by
  have hpicture : Fits s (onPage page (.screenshot request) (pageFailure action)) :=
    .bind (Within.command ⟨rfl, rfl, nofun, fun _ _ ↦ trivial⟩) fun _ _ ↦
      (Within.orFail fun _ ↦ trivial).mono fun _ _ ↦ trivial
  refine .bind hpicture fun picture _ ↦ ?_
  refine .bind (.tryFile trivial) fun reply _ ↦ ?_
  exact .mono (.orFail fun _ ↦ trivial) fun _ _ ↦ trivial

theorem screenshot_within : Handler.Within .touching screenshot := by
  intro σ s cx ps
  refine .bind .text fun name _ ↦ ?_
  refine .bind picturePath_within fun path _ ↦ ?_
  refine .bind (.display (by simp)) fun _ _ ↦ ?_
  exact .bind .needPage fun page _ ↦ takePicture_within

theorem screenshotElement_within : Handler.Within .touching screenshotElement := by
  intro σ s cx ps
  refine .bind .text fun name _ ↦ ?_
  refine .bind .text fun selector _ ↦ ?_
  refine .bind picturePath_within fun path _ ↦ ?_
  refine .bind (.display (by simp)) fun _ _ ↦ ?_
  refine .bind .needPage fun page _ ↦ ?_
  exact .bind (.onPage (fun _ ↦ trivial) rfl) fun box _ ↦ takePicture_within

end WebRecipe.Action

namespace WebRecipe

/-- A handler that performs no other action, and keeps within a footprint. -/
structure Handler.Alone (f : Footprint) (h : Handler) : Prop where
  within : h.Within f
  performs : ∀ (cx : Context) perform ps, h { cx with perform } ps = h cx ps

namespace Action

/-- The built-in actions. Those that act alone have a footprint in which only the actions on
variables write under other names than those of the handed value and the directories. -/
inductive Builtin : String → Handler → Prop
  | alone {name : String} {h : Handler} {f : Footprint} (alone : h.Alone f)
      (writes : ∀ key, f.writes key → Footprint.touching.writes key ∨ name ∈ variableActions) :
      Builtin name h
  | ifTrue : Builtin "if" ifTrue
  | ifElse : Builtin "ifElse" ifElse
  | countingLoop : Builtin "for" countingLoop
  | itemLoop : Builtin "forEach" itemLoop
  | conditionLoop : Builtin "while" conditionLoop
  | callMethod : Builtin "puppeteer" callMethod
  | login : Builtin "login" login

namespace Builtin

variable {name : String} {h : Handler}

theorem handing (hh : h.Within .handing) (hperform : ∀ (cx : Context) perform ps,
    h { cx with perform } ps = h cx ps := by intros; rfl) : Builtin name h :=
  .alone ⟨hh, hperform⟩ fun _ hkey ↦ .inl (.inl hkey)

theorem storing (hh : h.Within .storing) (hname : name ∈ variableActions := by decide)
    (hperform : ∀ (cx : Context) perform ps, h { cx with perform } ps = h cx ps := by intros; rfl) :
    Builtin name h :=
  .alone ⟨hh, hperform⟩ fun _ _ ↦ .inr hname

theorem touching (hh : h.Within .touching) (hperform : ∀ (cx : Context) perform ps,
    h { cx with perform } ps = h cx ps := by intros; rfl) : Builtin name h :=
  .alone ⟨hh, hperform⟩ fun _ hkey ↦ .inl hkey

end Builtin

/-- Every built-in action is of one of these kinds. -/
theorem builtins_builtin : ∀ p ∈ builtins, Builtin p.1 p.2 := by
  simp only [builtins, List.forall_mem_cons]
  exact ⟨.storing setVariable_within, .handing getVariable_within, .storing deleteVariable_within,
    .storing transferVariable_within, .storing appendToVariable_within,
    .storing countStart_within, .storing countIncrement_within, .storing countDecrement_within,
    .ifTrue, .ifElse, .countingLoop, .itemLoop, .conditionLoop,
    .touching setBaseDir_within, .touching setCurrentDir_within, .touching resetCurrentDir_within,
    .touching backToParentDir_within, .touching createDir_within, .touching deleteFolder_within,
    .touching listFolders_within, .touching createFile_within, .touching readFromText_within,
    .touching saveToText_within, .touching appendToText_within, .touching deleteFile_within,
    .touching fileExists_within, .touching checkStringInFile_within, .touching download_within,
    .callMethod, .handing newPage_within, .handing closePage_within, .handing switchPage_within,
    .touching screenshot_within, .touching screenshotElement_within,
    .handing getElements_within, .handing getChildren_within, .handing elementExists_within,
    .handing click_within, .handing clickAll_within, .handing scrollWaitClick_within,
    .handing typeText_within, .login, .handing sleep_within, .handing log_within,
    .handing sanitizeString_within, .handing replaceString_within,
    .handing matchFromString_within, .handing matchFromSelector_within, .handing random_within,
    .handing uuid_within, .handing getExtension_within, .handing userInput_within,
    List.forall_mem_nil _⟩

end Action

/-- What an engine with the built-in actions only finds under a name is one of them. -/
theorem Engine.mem_builtins_of_get? {e : Engine} (hreg : e.registry = Action.builtinRegistry)
    {name : String} {h : Handler} (hget : e.registry.get? name = some h) :
    (name, h) ∈ Action.builtins := by
  rw [hreg, Registry.get?] at hget
  split at hget
  case h_1 handler hlookup =>
    cases hget
    obtain ⟨before, after, hentries, -⟩ := List.lookup_eq_some_iff.1 hlookup
    rw [show Action.builtins = before ++ (name, h) :: after from hentries]
    exact List.mem_append_right _ List.mem_cons_self
  case h_2 => cases hget

theorem Action.builtin_of_get? {e : Engine} (hreg : e.registry = Action.builtinRegistry)
    {name : String} {h : Handler} (hget : e.registry.get? name = some h) : Builtin name h :=
  builtins_builtin _ (Engine.mem_builtins_of_get? hreg hget)

end WebRecipe
