import WebRecipe.Action.Files
import WebRecipe.Action.Pages
import WebRecipe.Proofs.BaseDir.Basic

/-!
# Actions on files stay inside the base directory

Most actions on files confine the path that they are given to the base directory, so that they stay
inside it wherever the current directory is. Listing folders and taking pictures do not: what they
touch is in the current directory, which they take as it is.

What a contract has to say for this, and what has to hold of the world, is put together once, for
an action of a given name. It is true of working inside the base directory, where the current
directory is inside it as well.

## Main definitions

* `Unconfined`: a path that is made of the current directory as it is.
* `Contract.Confines`: an action keeps what holds as long as it confines the paths that it touches.
* `Handler.Stays`: the handler is such an action.

## Main results

* `Action.confined_keeps`: a confined path is inside the base directory.
* `Action.createFile_stays`, `Action.deleteFolder_stays`, …: one statement for each action.
* `Unconfined.inside`, `Dirs.Placed.confines`: where the current directory is inside the base one.
-/

namespace WebRecipe

open WebRecipe.Path

variable {σ α : Type}

/-! ### Paths that are not confined -/

/-- The actions that touch paths in the current directory without confining them. -/
def unconfinedActions : List String :=
  ["listFolders", "screenshot", "screenshotElement"]

/-- A path that an action makes of the current directory as it is. -/
inductive Unconfined (base : String) (current : Option String) : String → String → Prop
  | listing : Unconfined base current "listFolders" (current.getD base)
  | picture {name dir text : String} {format : ImageFormat}
      (takes : name ∈ ["screenshot", "screenshotElement"]) (works : current = some dir) :
      Unconfined base current name (join dir (sanitize text ++ "." ++ format.extension))

namespace Unconfined

variable {base name path : String} {current : Option String}

theorem mem_unconfinedActions (h : Unconfined base current name path) :
    name ∈ unconfinedActions := by
  cases h with
  | listing => decide
  | picture takes => exact List.mem_cons_of_mem _ takes

/-- Such a path is inside the base directory if the current directory is. -/
theorem inside (h : Unconfined base current name path)
    (hcurrent : ∀ dir, current = some dir → Inside base dir) : Inside base path := by
  cases h with
  | listing =>
    cases current with
    | none => exact .refl base
    | some dir => exact hcurrent dir rfl
  | @picture _ dir text format _ works =>
    have hdir := hcurrent dir works
    refine hdir.child (childOf_join dir ?_ ?_)
    · rw [String.toList_append, String.toList_append, List.mem_append, List.mem_append, not_or,
        not_or]
      refine ⟨⟨slash_notMem_sanitize text, by decide⟩, ?_⟩
      cases format <;> decide
    · refine Component.ofPiece_of_mem (c := 'g') ?_ (by decide)
      rw [String.toList_append, List.mem_append]
      refine .inr ?_
      cases format <;> decide

end Unconfined

/-! ### Contracts that confine -/

/-- What an action of a name relies on in a contract, and in what holds of the world: there is a
base directory, and what may be touched is what is inside it and what an action of the name does not
confine. A directory that is removed with all that is in it is not the base directory. -/
structure Contract.Confines (k : Contract σ) (name base : String) (admits : String → Prop)
    (I : Option String → World σ → Prop) : Prop where
  frames : k.Frames I
  encloses : Encloses base
  baseDir : ∀ {author w}, I author w → w.store.baseDir = some base
  inside : ∀ {path}, Inside base path → admits path
  unconfined : ∀ {author w path}, I author w → Unconfined base w.store.currentDir name path →
    admits path
  touch : ∀ {author w c path}, I author w → c.path? = some path → admits path →
    (∀ dir, c = .file (.removeDirAll dir) → StrictlyInside base dir) →
      k.guarantees ⟨author, w, c⟩ ∧ I (c.latest author) (w.answer k.surroundings c).2

/-- An action that confines all of its paths relies on less. -/
theorem Contract.Confines.of_notMem {k : Contract σ} {name name' base : String}
    {admits : String → Prop} {I : Option String → World σ → Prop}
    (hk : k.Confines name base admits I) (hname : name' ∉ unconfinedActions) :
    k.Confines name' base admits I :=
  { hk with unconfined := fun _ h ↦ absurd h.mem_unconfinedActions hname }

/-- The call removes a directory with all that is in it. -/
def FileCall.removes : FileCall → Bool
  | removeDirAll _ => true
  | _ => false

/-- A handler that leaves both directories as they are, and confines its paths but for those that an
action of its name does not. -/
def Handler.Stays (name : String) (h : Handler) : Prop :=
  ∀ {σ : Type} {k : Contract σ} {base : String} {admits : String → Prop}
    {I : Option String → World σ → Prop},
    k.Confines name base admits I → ∀ cx ps, k.Keeps I (h cx ps) (fun _ ↦ True)

namespace Action

variable {k : Contract σ} {name base : String} {admits : String → Prop}
  {I : Option String → World σ → Prop}

/-! ### Finding the directories -/

/-- The text under a name is what the store says. -/
theorem getText_keeps (hI : k.Frames I) {key : String} :
    k.Keeps I (getText key) (fun v ↦ ∃ author w, I author w ∧ v = w.store.text? key) := by
  have hwrites : ¬ (Command.store (.get key)).WritesDir := fun ⟨_, hkey, _⟩ ↦ nomatch hkey
  have hget : k.Keeps I (get key) (fun v ↦ ∃ author w, I author w ∧ v = w.store.get? key) := by
    refine .command fun author w hw _ ↦ ?_
    obtain ⟨hguarantees, hkept⟩ := hI.idle hw hwrites rfl
    exact ⟨hguarantees, hkept, author, w, hw, rfl⟩
  refine .bind hget fun v ⟨author, w, hw, hv⟩ ↦ .pure ⟨author, w, hw, ?_⟩
  rw [hv]
  rfl

/-- The base directory is what the store says. -/
theorem baseDir_keeps (hk : k.Confines name base admits I) {action : String} :
    k.Keeps I (baseDir action) (fun dir ↦ dir = base) := by
  refine .bind (getText_keeps hk.frames) fun v ⟨author, w, hw, hv⟩ ↦ ?_
  rw [hv.trans (hk.baseDir hw)]
  exact .pure rfl

/-- The current directory is what the store says, or else the base directory. -/
theorem currentDir_keeps (hk : k.Confines name base admits I) {action : String} :
    k.Keeps I (currentDir action)
      (fun dir ↦ ∃ author w, I author w ∧ dir = w.store.currentDir.getD base) := by
  refine .bind (getText_keeps hk.frames) fun v ⟨author, w, hw, hv⟩ ↦ ?_
  rw [show w.store.text? Key.currentDir = w.store.currentDir from rfl] at hv
  cases v with
  | some dir => exact .pure ⟨author, w, hw, by rw [← hv]; rfl⟩
  | none => exact (baseDir_keeps hk).mono fun dir hdir ↦ ⟨author, w, hw, by rw [← hv, hdir]; rfl⟩

theorem startDir_keeps (hk : k.Confines name base admits I) {action : String} {ps : Members} :
    k.Keeps I (startDir action ps) (fun _ ↦ True) :=
  .ite (fun _ ↦ (baseDir_keeps hk).mono fun _ _ ↦ trivial)
    fun _ ↦ (currentDir_keeps hk).mono fun _ _ ↦ trivial

/-- A path that is confined is inside the base directory, wherever it is seen from. -/
theorem confined_keeps (hk : k.Confines name base admits I) {action dir path : String} :
    k.Keeps I (confined action dir path) (Inside base) := by
  refine .bind (baseDir_keeps hk) fun base' hbase ↦ ?_
  subst hbase
  split
  case h_1 target htarget => exact .pure (inside_of_confine hk.encloses htarget)
  case h_2 => exact .throw

private theorem inCurrent_keeps (hk : k.Confines name base admits I) {action path : String} :
    k.Keeps I (inCurrent action path) (Inside base) :=
  .bind (currentDir_keeps hk) fun _ _ ↦ confined_keeps hk

/-! ### Touching files -/

/-- A call of the file system for a path that may be touched, which removes no directory that is not
strictly inside. -/
private theorem tryFile_admits (hk : k.Confines name base admits I) {call : FileCall}
    (hpath : admits call.path) (hremoves : call.removes = false ∨ StrictlyInside base call.path) :
    k.Keeps I (tryFile call) (fun _ ↦ True) := by
  have hstrict : ∀ dir, Command.file call = .file (.removeDirAll dir) →
      StrictlyInside base dir := by
    rintro dir ⟨⟩
    exact hremoves.resolve_left Bool.noConfusion
  refine .command fun author w hw _ ↦ ?_
  obtain ⟨hguarantees, hkept⟩ := hk.touch hw rfl hpath hstrict
  exact ⟨hguarantees, hkept, trivial⟩

private theorem file_admits (hk : k.Confines name base admits I) {action operation : String}
    {call : FileCall} (hpath : admits call.path)
    (hremoves : call.removes = false ∨ StrictlyInside base call.path) :
    k.Keeps I (file action operation call) (fun _ ↦ True) :=
  .bind (tryFile_admits hk hpath hremoves) fun _ _ ↦ .mono .orFail fun _ _ ↦ trivial

/-- A call of the file system for a path inside the base directory. -/
theorem tryFile_keeps (hk : k.Confines name base admits I) {call : FileCall}
    (hpath : Inside base call.path)
    (hremoves : call.removes = false ∨ StrictlyInside base call.path) :
    k.Keeps I (tryFile call) (fun _ ↦ True) :=
  tryFile_admits hk (hk.inside hpath) hremoves

/-- The same call for an action. -/
theorem file_keeps (hk : k.Confines name base admits I) {action operation : String}
    {call : FileCall} (hpath : Inside base call.path)
    (hremoves : call.removes = false ∨ StrictlyInside base call.path) :
    k.Keeps I (file action operation call) (fun _ ↦ True) :=
  file_admits hk (hk.inside hpath) hremoves

/-- Looking whether there is something inside the base directory. -/
theorem pathExists_keeps (hk : k.Confines name base admits I) {path : String}
    (hpath : Inside base path) : k.Keeps I (pathExists path) (fun _ ↦ True) := by
  refine .bind (tryFile_keeps hk hpath (.inl rfl)) fun reply _ ↦ ?_
  split
  · exact .pure trivial
  · exact .pure trivial

/-! ### Directories -/

theorem createDir_stays : Handler.Stays "createDir" createDir := by
  intro σ k base admits I hk cx ps
  refine .bind .ofExcept fun dir _ ↦ ?_
  refine .bind hk.frames.display fun _ _ ↦ ?_
  refine .bind (startDir_keeps hk) fun start _ ↦ ?_
  refine .bind (confined_keeps hk) fun target htarget ↦ ?_
  exact file_keeps hk htarget (.inl rfl)

theorem deleteFolder_stays : Handler.Stays "deleteFolder" deleteFolder := by
  intro σ k base admits I hk cx ps
  refine .bind .ofExcept fun name _ ↦ ?_
  refine .bind (inCurrent_keeps hk) fun target htarget ↦ ?_
  refine .bind hk.frames.display fun _ _ ↦ ?_
  refine .bind (baseDir_keeps hk) fun base' hbase ↦ ?_
  subst hbase
  refine .ite (fun _ ↦ .throw_bind) fun hsame ↦ ?_
  refine .bind (pathExists_keeps hk htarget) fun found _ ↦ ?_
  refine .ite (fun _ ↦ ?_) fun _ ↦ .pure trivial
  exact file_keeps hk htarget (.inr (htarget.strictlyInside (Bool.not_eq_true _ ▸ hsame)))

theorem listFolders_stays : Handler.Stays "listFolders" listFolders := by
  intro σ k base admits I hk cx ps
  refine .bind (currentDir_keeps hk) fun current ⟨author, w, hw, hcurrent⟩ ↦ ?_
  subst hcurrent
  refine .bind hk.frames.display fun _ _ ↦ ?_
  refine .bind (file_admits hk (hk.unconfined hw .listing) (.inl rfl)) fun found _ ↦ ?_
  exact hk.frames.setInput

/-! ### Files -/

theorem createFile_stays : Handler.Stays "createFile" createFile := by
  intro σ k base admits I hk cx ps
  refine .bind .ofExcept fun name _ ↦ ?_
  refine .bind (inCurrent_keeps hk) fun path hpath ↦ ?_
  refine .bind hk.frames.display fun _ _ ↦ ?_
  exact file_keeps hk hpath (.inl rfl)

theorem readFromText_stays : Handler.Stays "readFromText" readFromText := by
  intro σ k base admits I hk cx ps
  refine .bind .ofExcept fun name _ ↦ ?_
  refine .bind (inCurrent_keeps hk) fun path hpath ↦ ?_
  refine .bind hk.frames.display fun _ _ ↦ ?_
  refine .bind (file_keeps hk hpath (.inl rfl)) fun content _ ↦ ?_
  exact .ite (fun _ ↦ hk.frames.setInput) fun _ ↦ hk.frames.setInput

theorem saveToText_stays : Handler.Stays "saveToText" saveToText := by
  intro σ k base admits I hk cx ps
  refine .bind .ofExcept fun key _ ↦ ?_
  refine .bind .ofExcept fun name _ ↦ ?_
  refine .bind hk.frames.get fun value _ ↦ ?_
  refine .ite (fun _ ↦ ?_) fun _ ↦ .pure trivial
  refine .bind (inCurrent_keeps hk) fun path hpath ↦ ?_
  refine .bind hk.frames.display fun _ _ ↦ ?_
  exact file_keeps hk hpath (.inl rfl)

theorem appendToText_stays : Handler.Stays "appendToText" appendToText := by
  intro σ k base admits I hk cx ps
  refine .bind .ofExcept fun key _ ↦ ?_
  refine .bind .ofExcept fun name _ ↦ ?_
  refine .bind hk.frames.get fun value _ ↦ ?_
  split
  · exact .pure trivial
  refine .ite (fun _ ↦ ?_) fun _ ↦ .pure trivial
  refine .bind (inCurrent_keeps hk) fun path hpath ↦ ?_
  refine .bind hk.frames.display fun _ _ ↦ ?_
  exact file_keeps hk hpath (.inl rfl)

theorem deleteFile_stays : Handler.Stays "deleteFile" deleteFile := by
  intro σ k base admits I hk cx ps
  refine .bind .ofExcept fun name _ ↦ ?_
  refine .bind (inCurrent_keeps hk) fun path hpath ↦ ?_
  refine .bind hk.frames.display fun _ _ ↦ ?_
  refine .bind (pathExists_keeps hk hpath) fun found _ ↦ ?_
  exact .ite (fun _ ↦ file_keeps hk hpath (.inl rfl)) fun _ ↦ .pure trivial

theorem fileExists_stays : Handler.Stays "fileExists" fileExists := by
  intro σ k base admits I hk cx ps
  refine .bind .ofExcept fun name _ ↦ ?_
  refine .bind (inCurrent_keeps hk) fun path hpath ↦ ?_
  refine .bind hk.frames.display fun _ _ ↦ ?_
  refine .bind (pathExists_keeps hk hpath) fun found _ ↦ ?_
  exact hk.frames.setInput

theorem checkStringInFile_stays : Handler.Stays "checkStringInFile" checkStringInFile := by
  intro σ k base admits I hk cx ps
  refine .bind .ofExcept fun name _ ↦ ?_
  refine .bind .ofExcept fun needle _ ↦ ?_
  refine .bind (inCurrent_keeps hk) fun path hpath ↦ ?_
  refine .bind hk.frames.display fun _ _ ↦ ?_
  refine .bind (file_keeps hk hpath (.inl rfl)) fun content _ ↦ ?_
  exact hk.frames.setInput

private theorem saveChunks_keeps (hk : k.Confines name base admits I) {path : String}
    (hpath : Inside base path) (total : Option Nat) (received reported : Nat)
    (chunks : List ByteArray) :
    k.Keeps I (saveChunks path total received reported chunks) (fun _ ↦ True) := by
  induction chunks generalizing received reported with
  | nil => exact .pure trivial
  | cons chunk rest ih =>
    refine .bind (file_keeps hk hpath (.inl rfl)) fun _ _ ↦ ?_
    cases total with
    | none => exact ih _ _
    | some t =>
      refine .ite (fun _ ↦ ?_) fun _ ↦ ih _ _
      exact .bind hk.frames.display fun _ _ ↦ ih _ _

theorem download_stays : Handler.Stays "download" download := by
  intro σ k base admits I hk cx ps
  refine .bind .ofExcept fun url _ ↦ ?_
  refine .ite (fun _ ↦ .throw_bind) fun _ ↦ ?_
  refine .bind (inCurrent_keeps hk) fun path hpath ↦ ?_
  refine .bind hk.frames.display fun _ _ ↦ ?_
  refine .bind .orFail fun target _ ↦ ?_
  refine .bind (hk.frames.command not_false rfl) fun reply _ ↦ ?_
  refine .bind .orFail fun response _ ↦ ?_
  refine .bind (file_keeps hk hpath (.inl rfl)) fun _ _ ↦ ?_
  refine .bind (saveChunks_keeps hk hpath _ 0 0 _) fun _ _ ↦ ?_
  exact .ite (fun _ ↦ .throw) fun _ ↦ .pure trivial

/-! ### Pictures -/

private theorem picturePath_keeps (hk : k.Confines name base admits I)
    (hname : name ∈ ["screenshot", "screenshotElement"]) {action text : String}
    {format : ImageFormat} : k.Keeps I (picturePath action text format) admits := by
  refine .bind (getText_keeps hk.frames) fun v ⟨author, w, hw, hv⟩ ↦ ?_
  cases v with
  | some dir => exact .pure (hk.unconfined hw (.picture hname hv.symm))
  | none => exact .throw

private theorem takePicture_keeps (hk : k.Confines name base admits I) {action : String}
    {page : PageId} {request : ScreenshotRequest} (hpath : admits request.path) :
    k.Keeps I (takePicture action page request) (fun _ ↦ True) := by
  have hpicture : k.Keeps I (command (.page page (.screenshot request))) (fun _ ↦ True) := by
    refine .command fun author w hw _ ↦ ?_
    obtain ⟨hguarantees, hkept⟩ :=
      hk.touch (c := .page page (.screenshot request)) hw rfl hpath nofun
    exact ⟨hguarantees, hkept, trivial⟩
  refine .bind (.bind hpicture fun _ _ ↦ .mono .orFail fun _ _ ↦ trivial) fun picture _ ↦ ?_
  refine .bind (tryFile_admits hk hpath (.inl rfl)) fun reply _ ↦ ?_
  exact .mono .orFail fun _ _ ↦ trivial

theorem screenshot_stays : Handler.Stays "screenshot" screenshot := by
  intro σ k base admits I hk cx ps
  refine .bind .ofExcept fun name _ ↦ ?_
  refine .bind (picturePath_keeps hk (by decide)) fun path hpath ↦ ?_
  refine .bind hk.frames.display fun _ _ ↦ ?_
  refine .bind .ofExcept fun page _ ↦ ?_
  exact takePicture_keeps hk hpath

theorem screenshotElement_stays : Handler.Stays "screenshotElement" screenshotElement := by
  intro σ k base admits I hk cx ps
  refine .bind .ofExcept fun name _ ↦ ?_
  refine .bind .ofExcept fun selector _ ↦ ?_
  refine .bind (picturePath_keeps hk (by decide)) fun path hpath ↦ ?_
  refine .bind hk.frames.display fun _ _ ↦ ?_
  refine .bind .ofExcept fun page _ ↦ ?_
  refine .bind (hk.frames.onPage rfl) fun box _ ↦ ?_
  exact takePicture_keeps hk hpath

end Action

/-! ### Where the current directory is inside -/

/-- Working inside the base directory, the current directory is inside it, and so is what actions
make of it. -/
theorem Dirs.Placed.confines {s : Surroundings σ} {top : String} {A : Moment σ → Prop}
    {d : Dirs} (hd : d.Placed top) (name : String) :
    (confinement s top A).Confines name d.base (Inside d.base) d.Held where
  frames := hd.frames
  encloses := hd.base.encloses hd.root
  baseDir hin := hin.baseDir
  inside h := h
  unconfined hin h := h.inside fun dir hdir ↦ by
    cases hdir.symm.trans hin.currentDir
    exact hd.current
  touch := by
    intro author w c path hin hpath hinside hremoves
    have hwrites : ¬ c.WritesDir := by
      cases c with
      | store => cases hpath
      | _ => exact not_false
    refine ⟨⟨.inl ⟨d, hin, hd⟩, fun path' hpath' ↦ ?_, fun dir hdir ↦ ?_⟩, hin.answer hwrites⟩
    · cases hpath.symm.trans hpath'
      exact .inl ⟨d.base, hin.baseDir, hinside⟩
    · have hstrict := hremoves dir hdir
      refine ⟨d.base, hin.baseDir, hstrict, ?_⟩
      cases hdir
      exact FileSystem.isDir_removeDirAll hd.plain_base hstrict

end WebRecipe
