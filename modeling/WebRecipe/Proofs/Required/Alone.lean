import WebRecipe.Action.Files
import WebRecipe.Action.Pages
import WebRecipe.Action.Values
import WebRecipe.Action.Variables
import WebRecipe.Proofs.Required.Supplied

/-!
# What actions read that act alone

Each action reads the texts that it cannot do without before it does anything else. After that its
failures have words of their own, which are not those of a missing text, or words of the page, of a
file or of the console.

## Main results

* `Action.setVariable_reads`, `Action.createFile_reads`, `Action.click_reads`, …: one statement for
  each action.
-/

namespace WebRecipe.Action

variable {said : Option String}

open SuppliedAfter

/-! ### Values -/

theorem sleep_reads : Handler.Reads "sleep" [] sleep := by
  intro cx ps _
  exact .done (.bind .command fun _ ↦ .command)

theorem log_reads : Handler.Reads "log" ["message"] log := by
  intro cx ps _
  exact .text fun message ↦ .done .command

theorem sanitizeString_reads : Handler.Reads "sanitizeString" ["string"] sanitizeString := by
  intro cx ps _
  exact .text fun text ↦ .done .command

theorem replaceString_reads :
    Handler.Reads "replaceString" ["string", "search", "replace"] replaceString := by
  intro cx ps _
  refine .text fun text ↦ ?_
  refine .text fun search ↦ ?_
  exact .text fun replacement ↦ .done .command

private theorem readPattern_supplied {action source : String} :
    (ofExcept (readPattern action source)).SuppliedAfter said := by
  refine .ofExcept fun _ _ he hmissing ↦ ?_
  rw [readPattern] at he
  cases hread : Pattern.read source with
  | ok pattern => rw [hread] at he; cases he
  | error cause =>
    rw [hread] at he
    cases he
    exact absurd hmissing (not_saysMissing (by simp))

theorem matchFromString_reads :
    Handler.Reads "matchFromString" ["string", "regex"] matchFromString := by
  intro cx ps _
  refine .text fun text ↦ ?_
  refine .text fun source ↦ .done ?_
  exact .bind readPattern_supplied fun pattern ↦ .command

theorem matchFromSelector_reads :
    Handler.Reads "matchFromSelector" ["selector", "regex"] matchFromSelector := by
  intro cx ps _
  refine .text fun selector ↦ ?_
  refine .text fun source ↦ .done ?_
  refine .bind readPattern_supplied fun pattern ↦ ?_
  refine .bind .needPage fun page ↦ ?_
  refine .bind .command fun found ↦ ?_
  split
  · exact .command
  · exact .bind .command fun _ ↦ .command

theorem random_reads : Handler.Reads "random" [] random := by
  intro cx ps _
  refine .done (.bind .command fun _ ↦ ?_)
  exact .bind .command fun roll ↦ .command

theorem uuid_reads : Handler.Reads "uuid" [] uuid := by
  intro cx ps _
  refine .done (.bind .command fun id ↦ ?_)
  exact .bind .command fun _ ↦ .command

theorem getExtension_reads : Handler.Reads "getExtension" ["string"] getExtension := by
  intro cx ps _
  exact .text fun text ↦ .done .command

theorem userInput_reads : Handler.Reads "userInput" ["query"] userInput := by
  intro cx ps _
  refine .text fun query ↦ .done ?_
  refine .bind .command fun depth ↦ ?_
  have hrelays : Relays FileError.message fun e ↦ .failed "userInput" e.message := by
    intro e _ _ he
    cases he
    rfl
  refine .command_bind fun reply ↦ ?_
  exact .bind (.orFail hrelays fun e he ↦ by rw [he]; rfl) fun answer ↦ .command

/-! ### Variables -/

private theorem learn_supplied (key : String) (v : Option Json) :
    (learn key v).SuppliedAfter said := by
  cases v with
  | some v => exact .command
  | none => exact .bind .command fun _ ↦ .pure

theorem setVariable_reads : Handler.Reads "setVariable" ["key"] setVariable := by
  intro cx ps _
  refine .text fun key ↦ .done ?_
  exact .bind .command fun _ ↦ learn_supplied key _

theorem getVariable_reads : Handler.Reads "getVariable" ["key"] getVariable := by
  intro cx ps _
  refine .text fun key ↦ .done ?_
  refine .bind .command fun _ ↦ ?_
  refine .bind .command fun value ↦ ?_
  split
  · exact learn_supplied _ _
  · exact learn_supplied _ _

theorem deleteVariable_reads : Handler.Reads "deleteVariable" ["key"] deleteVariable := by
  intro cx ps _
  refine .text fun key ↦ .done ?_
  refine .bind .command fun _ ↦ ?_
  exact .bind .command fun _ ↦ .pure

private theorem memberOf_supplied {source field : String} {v : Option Json} :
    (ofExcept (memberOf source field v)).SuppliedAfter said := by
  refine .ofExcept fun _ _ he hmissing ↦ ?_
  rw [memberOf.eq_def] at he
  split at he
  · split at he
    · cases he
    · cases he
      exact absurd hmissing (not_saysMissing (by simp))
  · cases he
  · cases he

theorem transferVariable_reads :
    Handler.Reads "transferVariable" ["from", "to"] transferVariable := by
  intro cx ps _
  refine .text fun source ↦ ?_
  refine .text fun target ↦ .done ?_
  refine .bind .command fun _ ↦ ?_
  refine .bind .command fun value ↦ ?_
  split
  · exact learn_supplied _ _
  · exact .bind memberOf_supplied fun member ↦ learn_supplied _ _
  · exact learn_supplied _ _

theorem appendToVariable_reads : Handler.Reads "appendToVariable" ["key"] appendToVariable := by
  intro cx ps _
  refine .text fun key ↦ .done ?_
  exact .bind .command fun _ ↦ .command

theorem countStart_reads : Handler.Reads "countStart" ["key"] countStart := by
  intro cx ps _
  refine .text fun key ↦ .done ?_
  exact .bind .command fun _ ↦ .command

private theorem addToCounter_supplied {action key : String} {difference : Float} :
    (addToCounter action key difference).SuppliedAfter said := by
  refine .bind .command fun value ↦ ?_
  split
  · exact .throw (not_saysMissing (by simp))
  · exact .bind .command fun _ ↦ .pure

theorem countIncrement_reads : Handler.Reads "countIncrement" ["key"] countIncrement := by
  intro cx ps _
  refine .text fun key ↦ .done ?_
  exact .bind addToCounter_supplied fun count ↦ .command

theorem countDecrement_reads : Handler.Reads "countDecrement" ["key"] countDecrement := by
  intro cx ps _
  refine .text fun key ↦ .done ?_
  exact .bind addToCounter_supplied fun count ↦ .command

/-! ### Directories and files -/

private theorem baseDir_supplied {action : String} : (baseDir action).SuppliedAfter said := by
  refine .bind .getText fun dir ↦ ?_
  split
  · exact .pure
  · exact .throw (not_saysMissing (by simp))

private theorem currentDir_supplied {action : String} :
    (currentDir action).SuppliedAfter said := by
  refine .bind .getText fun dir ↦ ?_
  split
  · exact .pure
  · exact baseDir_supplied

private theorem confined_supplied {action dir path : String} :
    (confined action dir path).SuppliedAfter said := by
  refine .bind baseDir_supplied fun base ↦ ?_
  split
  · exact .pure
  · exact .throw (not_saysMissing (by simp))

private theorem inCurrent_supplied {action path : String} :
    (inCurrent action path).SuppliedAfter said :=
  .bind currentDir_supplied fun _ ↦ confined_supplied

private theorem startDir_supplied {action : String} {ps : Members} :
    (startDir action ps).SuppliedAfter said :=
  .ite baseDir_supplied currentDir_supplied

theorem setBaseDir_reads : Handler.Reads "setBaseDir" ["dir"] setBaseDir := by
  intro cx ps _
  refine .text fun dir ↦ .done ?_
  split
  · exact .throw (not_saysMissing (by simp))
  · refine .bind .file fun _ ↦ ?_
    exact .bind .command fun _ ↦ .command

theorem setCurrentDir_reads : Handler.Reads "setCurrentDir" ["dir"] setCurrentDir := by
  intro cx ps _
  refine .text fun dir ↦ .done ?_
  refine .bind startDir_supplied fun start ↦ ?_
  refine .bind confined_supplied fun target ↦ ?_
  refine .bind .command fun found ↦ ?_
  split
  · exact .bind .command fun _ ↦ .command
  · exact .throw (not_saysMissing (by simp))

theorem resetCurrentDir_reads : Handler.Reads "resetCurrentDir" [] resetCurrentDir := by
  intro cx ps _
  exact .done (.bind baseDir_supplied fun base ↦ .command)

theorem backToParentDir_reads : Handler.Reads "backToParentDir" [] backToParentDir := by
  intro cx ps _
  refine .done (.bind baseDir_supplied fun base ↦ ?_)
  exact .bind currentDir_supplied fun current ↦ .command

theorem createDir_reads : Handler.Reads "createDir" ["dir"] createDir := by
  intro cx ps _
  refine .text fun dir ↦ .done ?_
  refine .bind .command fun _ ↦ ?_
  refine .bind startDir_supplied fun start ↦ ?_
  exact .bind confined_supplied fun target ↦ .file

theorem deleteFolder_reads : Handler.Reads "deleteFolder" ["foldername"] deleteFolder := by
  intro cx ps _
  refine .text fun name ↦ .done ?_
  refine .bind inCurrent_supplied fun target ↦ ?_
  refine .bind .command fun _ ↦ ?_
  refine .bind baseDir_supplied fun base ↦ ?_
  refine .ite (.throw_bind (not_saysMissing (by simp))) ?_
  exact .bind .pathExists fun found ↦ .ite .file .pure

theorem listFolders_reads : Handler.Reads "listFolders" [] listFolders := by
  intro cx ps _
  refine .done (.bind currentDir_supplied fun current ↦ ?_)
  refine .bind .command fun _ ↦ ?_
  exact .bind .file fun found ↦ .command

theorem createFile_reads : Handler.Reads "createFile" ["filename"] createFile := by
  intro cx ps _
  refine .text fun name ↦ .done ?_
  refine .bind inCurrent_supplied fun path ↦ ?_
  exact .bind .command fun _ ↦ .file

theorem readFromText_reads : Handler.Reads "readFromText" ["filename"] readFromText := by
  intro cx ps _
  refine .text fun name ↦ .done ?_
  refine .bind inCurrent_supplied fun path ↦ ?_
  refine .bind .command fun _ ↦ ?_
  exact .bind .file fun content ↦ .ite .command .command

theorem saveToText_reads : Handler.Reads "saveToText" ["key", "filename"] saveToText := by
  intro cx ps _
  refine .text fun key ↦ ?_
  refine .text fun name ↦ .done ?_
  refine .bind .command fun value ↦ ?_
  refine .ite ?_ .pure
  refine .bind inCurrent_supplied fun path ↦ ?_
  exact .bind .command fun _ ↦ .file

theorem appendToText_reads : Handler.Reads "appendToText" ["key", "filename"] appendToText := by
  intro cx ps _
  refine .text fun key ↦ ?_
  refine .text fun name ↦ .done ?_
  refine .bind .command fun value ↦ ?_
  split
  · exact .pure
  · refine .ite ?_ .pure
    refine .bind inCurrent_supplied fun path ↦ ?_
    exact .bind .command fun _ ↦ .file

theorem deleteFile_reads : Handler.Reads "deleteFile" ["filename"] deleteFile := by
  intro cx ps _
  refine .text fun name ↦ .done ?_
  refine .bind inCurrent_supplied fun path ↦ ?_
  refine .bind .command fun _ ↦ ?_
  exact .bind .pathExists fun found ↦ .ite .file .pure

theorem fileExists_reads : Handler.Reads "fileExists" ["filename"] fileExists := by
  intro cx ps _
  refine .text fun name ↦ .done ?_
  refine .bind inCurrent_supplied fun path ↦ ?_
  refine .bind .command fun _ ↦ ?_
  exact .bind .pathExists fun found ↦ .command

theorem checkStringInFile_reads :
    Handler.Reads "checkStringInFile" ["filename", "string"] checkStringInFile := by
  intro cx ps _
  refine .text fun name ↦ ?_
  refine .text fun needle ↦ .done ?_
  refine .bind inCurrent_supplied fun path ↦ ?_
  refine .bind .command fun _ ↦ ?_
  exact .bind .file fun content ↦ .command

/-! ### Downloads -/

private theorem saveChunks_supplied {path : String} {total : Option Nat}
    (received reported : Nat) (chunks : List ByteArray) :
    (saveChunks path total received reported chunks).SuppliedAfter said := by
  induction chunks generalizing received reported with
  | nil => exact .pure
  | cons chunk rest ih =>
    refine .bind .file fun _ ↦ ?_
    cases total with
    | none => exact ih _ _
    | some t => exact .ite (.bind .command fun _ ↦ ih _ _) (ih _ _)

theorem download_reads : Handler.Reads "download" ["url"] download := by
  intro cx ps _
  refine .text fun url ↦ .done ?_
  refine .ite (.throw_bind (not_saysMissing (by simp))) ?_
  refine .bind inCurrent_supplied fun path ↦ ?_
  refine .bind .command fun _ ↦ ?_
  refine .bind (.orFail_of_not fun _ ↦ id) fun target ↦ ?_
  refine .bind .command fun reply ↦ ?_
  refine .bind (.orFail_of_not fun _ ↦ id) fun response ↦ ?_
  refine .bind .file fun _ ↦ ?_
  refine .bind (saveChunks_supplied 0 0 _) fun _ ↦ ?_
  exact .ite (.throw id) .pure

/-! ### Pictures -/

private theorem picturePath_supplied {action name : String} {format : ImageFormat} :
    (picturePath action name format).SuppliedAfter said := by
  refine .bind .getText fun dir ↦ ?_
  split
  · exact .pure
  · exact .throw (not_saysMissing (by simp))

private theorem takePicture_supplied {action : String} {page : PageId}
    {request : ScreenshotRequest} : (takePicture action page request).SuppliedAfter said := by
  have hrelays : Relays FileError.message fun e ↦ pageFailure action (.file e) := by
    intro e _ _ he
    cases he
    rfl
  refine .bind (.onPage (relays_pageFailure action)) fun picture ↦ ?_
  exact .command_bind fun reply ↦ .orFail hrelays fun e he ↦ by rw [he]; rfl

theorem screenshot_reads : Handler.Reads "screenshot" ["name"] screenshot := by
  intro cx ps _
  refine .text fun name ↦ .done ?_
  refine .bind picturePath_supplied fun path ↦ ?_
  refine .bind .command fun _ ↦ ?_
  exact .bind .needPage fun page ↦ takePicture_supplied

theorem screenshotElement_reads :
    Handler.Reads "screenshotElement" ["name", "selector"] screenshotElement := by
  intro cx ps _
  refine .text fun name ↦ ?_
  refine .text fun selector ↦ .done ?_
  refine .bind picturePath_supplied fun path ↦ ?_
  refine .bind .command fun _ ↦ ?_
  refine .bind .needPage fun page ↦ ?_
  refine .bind (.onPage (relays_selectorFailure _ _)) fun box ↦ ?_
  exact takePicture_supplied

/-! ### Elements -/

private theorem clickOnce_supplied {page : PageId} {selector : String}
    {attr wanted : Option String} :
    (clickOnce page selector attr wanted).SuppliedAfter said := by
  have hclick {call : PageCall} :
      (onPage page call (selectorFailure "click" selector)).SuppliedAfter said :=
    .onPage (relays_selectorFailure _ _)
  refine .ite (.bind hclick fun _ ↦ hclick) ?_
  refine .bind hclick fun count ↦ ?_
  refine .ite (.throw_bind id) ?_
  cases wanted with
  | none => exact .throw id
  | some text =>
    refine .bind hclick fun texts ↦ ?_
    split
    · exact hclick
    · exact .throw id

theorem click_reads : Handler.Reads "click" ["selector"] click := by
  intro cx ps _
  refine .text fun selector ↦ .done ?_
  exact .bind .needPage fun page ↦ .withRetries clickOnce_supplied

private theorem clickFrom_supplied {page : PageId} {selector : String} (count index : Nat) :
    (clickFrom page selector count index).SuppliedAfter said := by
  induction count generalizing index with
  | zero => exact .pure
  | succ count ih =>
    refine .bind (.onPage (relays_selectorFailure _ _)) fun _ ↦ ?_
    exact .bind (.onPage (relays_selectorFailure _ _)) fun _ ↦ ih (index + 1)

theorem clickAll_reads : Handler.Reads "clickAll" ["selector"] clickAll := by
  intro cx ps _
  refine .text fun selector ↦ .done ?_
  refine .bind .needPage fun page ↦ ?_
  refine .bind (.onPage (relays_selectorFailure _ _)) fun count ↦ ?_
  exact clickFrom_supplied _ _

theorem scrollWaitClick_reads : Handler.Reads "scrollWaitClick" ["selector"] scrollWaitClick := by
  intro cx ps _
  refine .text fun selector ↦ .done ?_
  refine .bind .needPage fun page ↦ ?_
  refine .bind (.onPage (relays_selectorFailure _ _)) fun _ ↦ ?_
  refine .bind .command fun _ ↦ ?_
  exact .onPage (relays_selectorFailure _ _)

theorem typeText_reads : Handler.Reads "type" ["selector", "text"] typeText := by
  intro cx ps _
  refine .text fun selector ↦ ?_
  refine .text fun text ↦ .done ?_
  refine .bind .needPage fun page ↦ .withRetries ?_
  refine .bind .command fun _ ↦ ?_
  refine .bind (.onPage (relays_selectorFailure _ _)) fun _ ↦ ?_
  exact .onPage (relays_selectorFailure _ _)

theorem getElements_reads : Handler.Reads "getElements" ["selector"] getElements := by
  intro cx ps _
  refine .text fun selector ↦ .done ?_
  refine .bind .needPage fun page ↦ ?_
  exact .bind (.onPage (relays_pageFailure _)) fun texts ↦ .command

theorem getChildren_reads :
    Handler.Reads "getChildren" ["selectorParent", "selectorChild"] getChildren := by
  intro cx ps _
  refine .text fun parent ↦ ?_
  refine .text fun child ↦ .done ?_
  refine .bind .needPage fun page ↦ ?_
  exact .bind (.onPage (relays_pageFailure _)) fun groups ↦ .command

theorem elementExists_reads : Handler.Reads "elementExists" ["selector"] elementExists := by
  intro cx ps _
  refine .text fun selector ↦ .done ?_
  refine .bind .needPage fun page ↦ ?_
  exact .bind (.onPage (relays_pageFailure _)) fun count ↦ .command

/-! ### Pages -/

theorem newPage_reads : Handler.Reads "newPage" ["pageKey"] newPage := by
  intro cx ps _
  refine .text fun key ↦ .done ?_
  refine .command_bind fun reply ↦ ?_
  refine .bind (.orFail (relays_pageFailure _) fun e he ↦ by rw [he]; rfl) fun page ↦ ?_
  exact .bind .command fun _ ↦ .command

theorem closePage_reads : Handler.Reads "closePage" ["pageKey"] closePage := by
  intro cx ps _
  refine .text fun key ↦ .done ?_
  refine .bind .command fun page ↦ ?_
  split
  · refine .command_bind fun reply ↦ ?_
    exact .bind (.orFail (relays_pageFailure _) fun e he ↦ by rw [he]; rfl) fun _ ↦ .command
  · exact .command

theorem switchPage_reads : Handler.Reads "switchPage" ["pageKey"] switchPage := by
  intro cx ps _
  refine .text fun key ↦ .done ?_
  refine .bind .command fun page ↦ ?_
  split
  · refine .bind (.onPage (relays_pageFailure _)) fun _ ↦ ?_
    exact .bind .command fun _ ↦ .command
  · exact .command

end WebRecipe.Action
