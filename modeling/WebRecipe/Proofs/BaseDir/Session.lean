import WebRecipe.Proofs.BaseDir.Moving
import WebRecipe.Proofs.BaseDir.Nested
import WebRecipe.Proofs.Engine
import WebRecipe.Proofs.Footprint.Builtin
import WebRecipe.Rehearsal

/-!
# Sessions stay inside the base directory

Every built-in action leaves the directories where they should be, given that the actions that it
performs do; so does performing any action, whatever the depth, by induction on it. Once the base
directory was set, the directories are where they should be at every moment of a session.

## Main definitions

* `Handler.Holds`: a handler keeps what holds if the actions do that it performs.
* `Handler.Fits`: what performing an action may rely on in the handler of its name.

## Main results

* `Action.builtins_fit`: every built-in handler.
* `Engine.performWithin_keeps`, `Engine.performs`: performing an action up to any depth.
* `Engine.session_confined`: sessions of actions.
-/

namespace WebRecipe

open WebRecipe.Path

variable {σ : Type} {s : Surroundings σ} {top name : String} {A : Moment σ → Prop}

/-! ### Handlers by name -/

/-- A handler keeps what holds if the actions do that it performs, as long as they leave the
directories as they are and confine their paths. -/
def Handler.Holds (name : String) (h : Handler) : Prop :=
  ∀ {σ : Type} {k : Contract σ} {base : String} {admits : String → Prop}
    {I : Option String → World σ → Prop}, k.Confines name base admits I → ∀ cx : Context,
    (∀ call : ActionCall, call.name ∉ movingActions → call.name ∉ unconfinedActions →
      k.Keeps I (cx.perform call) (fun _ ↦ True)) →
    ∀ ps, k.Keeps I (h cx ps) (fun _ ↦ True)

/-- What performing an action may rely on in the handler of its name: the directories are left where
they should be, and it keeps what holds unless the name is one of the moving ones. -/
structure Handler.Fits (name : String) (h : Handler) : Prop where
  placed : ∀ {σ : Type} {s : Surroundings σ} {top : String} (cx : Context) ps w,
    Path.absolute cx.settings.workingDir cx.settings.resourcesDir = top →
    Performs s top Moment.SparesDirs cx.perform → w.store.IsPlaced top →
    (confinement s top Moment.SparesDirs).Ensures (fun _ _ w ↦ w.store.IsPlaced top)
      (some name) w (h cx ps).run
  holds : name ∉ movingActions → Holds name h

namespace Handler.Fits

variable {h : Handler}

/-- A handler that keeps what holds leaves both directories as they are. -/
theorem of_holds (hh : Holds name h) : Fits name h where
  placed cx ps w _ hp := fun ⟨d, hin, hd⟩ ↦
    ((hh (hd.confines name) cx (fun call hname _ ↦ hp.held call d hname hd) ps).ensures _ w
      hin).mono fun _ _ _ hr ↦ ⟨d, hr.1, hd⟩
  holds _ := hh

theorem of_stays (hh : h.Stays name) : Fits name h :=
  .of_holds fun hk cx _ ps ↦ hh hk cx ps

/-- A handler that hands on a value at most. -/
theorem of_handing (hh : h.Within .handing) : Fits name h :=
  .of_holds fun {_ k} _ _ _ hk cx _ ps ↦ hk.frames.handing (hh k.surroundings cx ps)

/-- A handler that stores under names that it is told, which the assumption keeps from being those
of the directories. -/
theorem of_storing (hh : h.Within .storing) (hvariable : name ∈ variableActions)
    (hname : name ∈ movingActions) : Fits name h where
  placed {_ s top} cx ps w _ _ := fun ⟨d, hin, hd⟩ ↦ by
    have hkeeps : (confinement s top Moment.SparesDirs).Keeps
        (fun author w ↦ author = some name ∧ d.In w.store) (h cx ps) (fun _ ↦ True) := by
      refine (hh s cx ps).keeps fun c author w hc hw hassumes ↦ ?_
      have hwrites : ¬ c.WritesDir := fun hwrites ↦ hassumes ⟨⟨name, hvariable, hw.1⟩, hwrites⟩
      have hpath : c.path? = none := Option.eq_none_iff_forall_ne_some.2 hc.paths
      refine ⟨.of_path?_eq_none (.inl ⟨d, hw.2, hd⟩) hpath, ?_, hw.2.answer hwrites⟩
      rw [Command.latest, hc.unannounced, hw.1]
      rfl
    exact (hkeeps.ensures _ w ⟨rfl, hin⟩).mono fun _ _ _ hr ↦ ⟨d, hr.1.2, hd⟩
  holds hnot := absurd hname hnot

theorem of_moved (hname : name ∈ movingActions)
    (hh : ∀ {σ : Type} {s : Surroundings σ} {top : String} (cx : Context) ps (d : Dirs) w,
      Path.absolute cx.settings.workingDir cx.settings.resourcesDir = top → d.Placed top →
      d.In w.store → (confinement s top Moment.SparesDirs).Ensures (Action.Moved top d)
        (some name) w (h cx ps).run) :
    Fits name h where
  placed cx ps w htop _ := fun ⟨d, hin, hd⟩ ↦ (hh cx ps d w htop hd hin).mono fun _ _ _ hr ↦ hr.1
  holds hnot := absurd hname hnot

theorem of_placed (hname : name ∈ movingActions)
    (hh : ∀ {σ : Type} {s : Surroundings σ} {top : String} {cx : Context},
      Performs s top Moment.SparesDirs cx.perform → ∀ ps,
        (confinement s top Moment.SparesDirs).Keeps (fun _ w ↦ w.store.IsPlaced top) (h cx ps)
          (fun _ ↦ True)) :
    Fits name h where
  placed _ ps w _ hp hw := ((hh hp ps).ensures _ w hw).mono fun _ _ _ hr ↦ hr.1
  holds hnot := absurd hname hnot

end Handler.Fits

namespace Action

/-- Every built-in handler fits its name. -/
theorem builtins_fit : ∀ p ∈ builtins, Handler.Fits p.1 p.2 := by
  simp only [builtins, List.forall_mem_cons]
  refine ⟨.of_storing setVariable_within (by decide) (by decide), .of_handing getVariable_within,
    .of_storing deleteVariable_within (by decide) (by decide),
    .of_storing transferVariable_within (by decide) (by decide),
    .of_storing appendToVariable_within (by decide) (by decide),
    .of_storing countStart_within (by decide) (by decide),
    .of_storing countIncrement_within (by decide) (by decide),
    .of_storing countDecrement_within (by decide) (by decide),
    .of_placed (by decide) fun hp ↦ branch_placed hp _ _,
    .of_placed (by decide) fun hp ↦ branch_placed hp _ _,
    .of_placed (by decide) countingLoop_placed, .of_placed (by decide) itemLoop_placed,
    .of_placed (by decide) conditionLoop_placed,
    .of_moved (by decide) fun cx ps d w htop hd hin ↦ setBaseDir_moved hd cx htop ps hin,
    .of_moved (by decide) fun cx ps d w _ hd hin ↦ setCurrentDir_moved hd cx ps hin,
    .of_moved (by decide) fun cx ps d w _ hd hin ↦ resetCurrentDir_moved hd cx ps hin,
    .of_moved (by decide) fun cx ps d w _ hd hin ↦ backToParentDir_moved hd cx ps hin,
    .of_stays createDir_stays, .of_stays deleteFolder_stays, .of_stays listFolders_stays,
    .of_stays createFile_stays, .of_stays readFromText_stays, .of_stays saveToText_stays,
    .of_stays appendToText_stays, .of_stays deleteFile_stays, .of_stays fileExists_stays,
    .of_stays checkStringInFile_stays, .of_stays download_stays,
    .of_holds fun hk cx hperform ps ↦
      callMethod_keeps hk.frames
        (fun _ ↦ hperform _ (show "newPage" ∉ movingActions by decide)
          (show "newPage" ∉ unconfinedActions by decide)) ps,
    .of_handing newPage_within, .of_handing closePage_within, .of_handing switchPage_within,
    .of_stays screenshot_stays, .of_stays screenshotElement_stays,
    .of_handing getElements_within, .of_handing getChildren_within,
    .of_handing elementExists_within, .of_handing click_within, .of_handing clickAll_within,
    .of_handing scrollWaitClick_within, .of_handing typeText_within,
    .of_holds fun hk cx hperform ps ↦
      login_keeps hk (fun _ _ hname hname' ↦ hperform _ hname hname') ps,
    .of_handing sleep_within,
    .of_handing log_within, .of_handing sanitizeString_within, .of_handing replaceString_within,
    .of_handing matchFromString_within, .of_handing matchFromSelector_within,
    .of_handing random_within, .of_handing uuid_within, .of_handing getExtension_within,
    .of_handing userInput_within, List.forall_mem_nil _⟩

end Action

/-! ### Performing -/

namespace Engine

/-- The handler of a name, of an engine with the built-in actions only, fits the name. -/
private theorem fits_of_get? {e : Engine} (hreg : e.registry = Action.builtinRegistry) {h : Handler}
    (hget : e.registry.get? name = some h) : h.Fits name :=
  Action.builtins_fit _ (mem_builtins_of_get? hreg hget)

/-- The preparation of an action neither writes a directory nor touches a path. -/
theorem prepares_keeps {k : Contract σ} {I : Option String → World σ → Prop} (hI : k.Frames I)
    (c : Command) (author : Option String) (w : World σ) (hc : c.Prepares name) (hw : I author w)
    (_ : k.assumes ⟨author, w, c⟩) :
    k.guarantees ⟨author, w, c⟩ ∧ I (c.latest author) (w.answer k.surroundings c).2 := by
  have hwrites : ¬ c.WritesDir := by
    cases hc with
    | put params =>
      rintro ⟨key, hkey, hdir⟩
      cases hkey
      exact absurd hdir (by decide)
    | announce => exact not_false
    | _ =>
      rintro ⟨key, hkey, -⟩
      cases hkey
  exact hI.idle hw hwrites (by cases hc <;> rfl)

/-- Performing an action that is not one of the moving ones keeps what holds, up to any depth, by
induction on it. -/
theorem performWithin_keeps {e : Engine} (hreg : e.registry = Action.builtinRegistry)
    {k : Contract σ} {base : String} {admits : String → Prop}
    {I : Option String → World σ → Prop} (depth : Nat) {call : ActionCall}
    (hname : call.name ∉ movingActions) (hk : k.Confines call.name base admits I) :
    k.Keeps I (e.performWithin depth call) (fun _ ↦ True) := by
  induction depth generalizing call with
  | zero => exact .unfinished
  | succ depth ih =>
    refine ⟨fun author w hw ↦ e.ensures_prepare_bind hw (prepares_keeps hk.frames)
      (fun _ _ _ hw ↦ ⟨hw, fun _ _ ↦ trivial⟩) fun p w hw hget ↦ ?_⟩
    exact ((fits_of_get? hreg hget).holds hname hk _
      (fun call hname hconfined ↦ ih hname (hk.of_notMem hconfined)) p.params).ensures _ w hw

/-- Performing actions up to any depth leaves the directories where they should be, by induction on
it. -/
theorem performs {e : Engine} (hreg : e.registry = Action.builtinRegistry)
    (htop : Path.absolute e.settings.workingDir e.settings.resourcesDir = top) (depth : Nat) :
    Performs s top Moment.SparesDirs (e.performWithin depth) where
  placed call := by
    induction depth generalizing call with
    | zero => exact .unfinished
    | succ depth ih =>
      have hp : Performs s top Moment.SparesDirs (e.performWithin depth) :=
        ⟨ih, fun _ _ hname hd ↦ performWithin_keeps hreg depth hname (hd.confines _)⟩
      refine ⟨fun author w hw ↦ ?_⟩
      refine (e.ensures_prepare_bind hw (prepares_keeps frames_isPlaced) (fun _ _ _ hw ↦ hw)
        fun p w hw hget ↦ ?_).mono fun _ _ _ hw ↦ ⟨hw, fun _ _ ↦ trivial⟩
      exact (fits_of_get? hreg hget).placed _ p.params w htop hp hw
  held _ _ hname hd := performWithin_keeps hreg depth hname (hd.confines _)

/-- A session goes on from where the directories should be. -/
theorem session_ensures {e : Engine} (hreg : e.registry = Action.builtinRegistry)
    (htop : Path.absolute e.settings.workingDir e.settings.resourcesDir = top)
    (calls : List ActionCall) {author : Option String} {w : World σ} (hw : w.store.IsPlaced top) :
    (confinement s top Moment.SparesDirs).Ensures (fun _ _ w ↦ w.store.IsPlaced top) author w
      (e.session calls) := by
  induction calls generalizing author w with
  | nil => exact hw
  | cons call rest ih =>
    rw [session, Contract.ensures_bind]
    exact (((performs hreg htop _).placed call).ensures author w hw).mono fun _ _ _ hr ↦ ih hr.1

/-! ### Setting the base directory -/

/-- The handler that an engine with the built-in actions only finds under a name. -/
theorem handler_eq {e : Engine} (hreg : e.registry = Action.builtinRegistry)
    {h h' : Handler} (hget : e.registry.get? name = some h)
    (hbuiltin : Action.builtins.lookup name = some h') : h = h' := by
  rw [hreg, Registry.get?, show Action.builtinRegistry.builtins.lookup name = some h' from hbuiltin]
    at hget
  exact (Option.some.inj hget).symm

/-- Setting the base directory places both directories, in whatever world it succeeds. -/
theorem setBaseDir_places {e : Engine} (hreg : e.registry = Action.builtinRegistry)
    (htop : Path.absolute e.settings.workingDir e.settings.resourcesDir = top)
    (hplain : Plain top) {call : ActionCall} (hname : call.name = "setBaseDir")
    {w w' : World σ} (hrun : (e.perform call).run.run s w = (some (.ok ()), w')) :
    w'.store.IsPlaced top := by
  let k : Contract σ := ⟨s, fun _ ↦ True, fun _ ↦ True⟩
  have hensures : k.Ensures (fun r _ w ↦ r = .ok () → w.store.IsPlaced top) none w
      (e.perform call).run := by
    refine e.ensures_prepare_bind (I := fun _ _ ↦ True) trivial
      (fun _ _ _ _ _ _ ↦ ⟨trivial, trivial⟩) (fun _ _ _ _ he ↦ by cases he) fun p w _ hget ↦ ?_
    have hhandler : p.handler = Action.setBaseDir := handler_eq hreg hget (by
      rw [hname]
      simp [Action.builtins, List.lookup_cons])
    rw [dispatch, hhandler]
    refine Action.setBaseDir_places hplain _ ?_ p.params
    exact htop
  obtain ⟨author, hplaced⟩ := (hensures.sound fun _ _ ↦ trivial).2 _ _ hrun
  exact hplaced rfl

/-! ### Directory actions that fail -/

/-- The actions on directories. -/
def directoryActions : List String :=
  ["setBaseDir", "setCurrentDir", "resetCurrentDir", "backToParentDir", "createDir", "deleteFolder",
    "listFolders"]

/-- An action on directories leaves them where they should be, and as they were when it fails. -/
private theorem moved_of_mem_directoryActions {e : Engine}
    (hreg : e.registry = Action.builtinRegistry) (hname : name ∈ directoryActions) {h : Handler}
    (hget : e.registry.get? name = some h) {d : Dirs} (hd : d.Placed top) (cx : Context)
    (htop : Path.absolute cx.settings.workingDir cx.settings.resourcesDir = top) (ps : Members)
    {w : World σ} (hin : d.In w.store) :
    (confinement s top A).Ensures (Action.Moved top d) (some name) w (h cx ps).run := by
  have hstays {h' : Handler} (hh : h'.Stays name) :
      (confinement s top A).Ensures (Action.Moved top d) (some name) w (h' cx ps).run :=
    ((hh (hd.confines name) cx ps).ensures _ w hin).mono fun _ _ _ hr ↦
      ⟨⟨d, hr.1, hd⟩, fun _ _ ↦ hr.1⟩
  have hhandler {h' : Handler} (hbuiltin : Action.builtins.lookup name = some h')
      (hh : (confinement s top A).Ensures (Action.Moved top d) (some name) w (h' cx ps).run) :
      (confinement s top A).Ensures (Action.Moved top d) (some name) w (h cx ps).run := by
    rwa [handler_eq hreg hget hbuiltin]
  simp only [directoryActions, List.mem_cons, List.not_mem_nil, or_false] at hname
  rcases hname with rfl | rfl | rfl | rfl | rfl | rfl | rfl
  · refine hhandler ?_ (Action.setBaseDir_moved hd cx htop ps hin)
    simp [Action.builtins, List.lookup_cons]
  · refine hhandler ?_ (Action.setCurrentDir_moved hd cx ps hin)
    simp [Action.builtins, List.lookup_cons]
  · refine hhandler ?_ (Action.resetCurrentDir_moved hd cx ps hin)
    simp [Action.builtins, List.lookup_cons]
  · refine hhandler ?_ (Action.backToParentDir_moved hd cx ps hin)
    simp [Action.builtins, List.lookup_cons]
  · refine hhandler ?_ (hstays Action.createDir_stays)
    simp [Action.builtins, List.lookup_cons]
  · refine hhandler ?_ (hstays Action.deleteFolder_stays)
    simp [Action.builtins, List.lookup_cons]
  · refine hhandler ?_ (hstays Action.listFolders_stays)
    simp [Action.builtins, List.lookup_cons]

/-- An action on directories that fails leaves both as they were. -/
theorem directories_of_error {e : Engine} (hreg : e.registry = Action.builtinRegistry)
    (htop : Path.absolute e.settings.workingDir e.settings.resourcesDir = top) {depth : Nat}
    {call : ActionCall} (hname : call.name ∈ directoryActions) {w w' : World σ}
    (hw : w.store.IsPlaced top) {error : ActionError}
    (hrun : (e.performWithin depth call).run.run s w = (some (.error error), w')) :
    w'.store.get? Key.baseDir = w.store.get? Key.baseDir ∧
      w'.store.get? Key.currentDir = w.store.get? Key.currentDir := by
  obtain ⟨d, hin, hd⟩ := hw
  cases depth with
  | zero => cases hrun
  | succ depth =>
    have hensures : (confinement s top fun _ ↦ True).Ensures (Action.Moved top d) none w
        (e.performWithin (depth + 1) call).run := by
      refine e.ensures_prepare_bind (I := d.Held) hin (prepares_keeps hd.frames)
        (fun _ _ _ hin ↦ ⟨⟨d, hin, hd⟩, fun _ _ ↦ hin⟩) fun p w hin hget ↦ ?_
      refine moved_of_mem_directoryActions hreg hname hget hd _ ?_ p.params hin
      exact htop
    obtain ⟨author, hmoved⟩ := (hensures.sound fun _ _ ↦ trivial).2 _ _ hrun
    have hin' := hmoved.2 error rfl
    exact ⟨hin'.base.trans hin.base.symm, hin'.current.trans hin.current.symm⟩

/-! ### Sessions -/

/-- The directory of resources, seen from the working directory. -/
def resources (e : Engine) : String :=
  Path.absolute e.settings.workingDir e.settings.resourcesDir

/-- **A session stays inside the base directory.** The directory of resources is an absolute path
that does not lead above the root, the base directory was set, and then any actions are performed,
of which those on variables do not write the two directories. At every moment the directories are
where they should be and nothing outside the base directory is touched; so they are at the end.
Wherever the directories are as they should be, an action on directories that fails leaves both as
they were. -/
theorem session_confined (s : Surroundings σ) (e : Engine)
    (hreg : e.registry = Action.builtinRegistry)
    (habs : isAbsolute e.settings.resourcesDir = true)
    (hclimbs : climbs e.settings.resourcesDir = false) (start : ActionCall)
    (hstart : start.name = "setBaseDir") (w₀ w : World σ)
    (hset : (e.perform start).run.run s w₀ = (some (.ok ()), w)) (calls : List ActionCall)
    (hvariables : ∀ m ∈ (e.session calls).moments s none w, ¬ m.MisplacesDir) :
    (∀ m ∈ (e.session calls).moments s none w, m.Confined s e.resources) ∧
    (∀ w', (e.session calls).run s w = (some (), w') → w'.store.IsPlaced e.resources) ∧
    ∀ (depth : Nat) (call : ActionCall) (w₁ w₂ : World σ) (error : ActionError),
      call.name ∈ directoryActions → w₁.store.IsPlaced e.resources →
      (e.performWithin depth call).run.run s w₁ = (some (.error error), w₂) →
      w₂.store.get? Key.baseDir = w₁.store.get? Key.baseDir ∧
        w₂.store.get? Key.currentDir = w₁.store.get? Key.currentDir := by
  have hplaced : w.store.IsPlaced e.resources :=
    setBaseDir_places hreg rfl (plain_absolute habs hclimbs) hstart hset
  obtain ⟨hmoments, hend⟩ := (session_ensures hreg rfl calls hplaced).sound hvariables
  refine ⟨hmoments, fun w' hrun ↦ ?_, fun depth call w₁ w₂ error hname hw hrun ↦ ?_⟩
  · obtain ⟨author, hw'⟩ := hend () w' hrun
    exact hw'
  · exact directories_of_error hreg rfl hname hw hrun

/-- An engine that keeps the directories of recipes in `/r`. -/
def rootEngine : Engine :=
  { settings := { resourcesDir := "/r" }, registry := Action.builtinRegistry, depth := 3,
    patience := 3 }

/-- The world in which the base directory of this engine was set to `/r/a`. -/
def rootWorld : World Rehearsal :=
  ((rootEngine.perform ⟨"setBaseDir", some [("dir", .str "a")], true⟩).run.run
    Rehearsal.surroundings { rest := {} }).2

/-- Deleting a folder that is given by a path with dots, and working in the parent directory. -/
def dottedCalls : List ActionCall :=
  [⟨"deleteFolder", some [("foldername", .str "b/..")], true⟩, ⟨"backToParentDir", none, true⟩]

/-- These calls stay inside the base directory. -/
theorem session_confined_dottedCalls :
    ((rootEngine.session dottedCalls).run Rehearsal.surroundings rootWorld).2.store.IsPlaced
        rootEngine.resources ∧
      ∀ m ∈ (rootEngine.session dottedCalls).moments Rehearsal.surroundings none rootWorld,
        m.Confined Rehearsal.surroundings rootEngine.resources := by
  have hok : ((rootEngine.perform ⟨"setBaseDir", some [("dir", .str "a")], true⟩).run.run
      Rehearsal.surroundings { rest := {} }).1.map Except.isOk = some true := by
    decide +kernel
  obtain ⟨_ | ⟨⟩, hreply, hok⟩ := Option.map_eq_some_iff.1 hok
  · cases hok
  have hset : (rootEngine.perform ⟨"setBaseDir", some [("dir", .str "a")], true⟩).run.run
      Rehearsal.surroundings { rest := {} } = (some (.ok ()), rootWorld) :=
    Prod.ext hreply rfl
  have hauthors : ∀ a ∈ ((rootEngine.session dottedCalls).moments Rehearsal.surroundings none
      rootWorld).map Moment.author, a ∉ variableActions.map some := by
    decide +kernel
  have hends : ((rootEngine.session dottedCalls).run Rehearsal.surroundings rootWorld).1 =
      some () := by
    decide +kernel
  obtain ⟨hmoments, hend, -⟩ := session_confined Rehearsal.surroundings rootEngine rfl (by decide)
    (by decide) _ rfl { rest := {} } rootWorld hset dottedCalls
    fun m hm hmisplaces ↦ by
      obtain ⟨⟨name, hname, hauthor⟩, -⟩ := hmisplaces
      refine hauthors m.author (List.mem_map_of_mem hm) ?_
      rw [hauthor]
      exact List.mem_map_of_mem hname
  exact ⟨hend _ (Prod.ext hends rfl), hmoments⟩

end Engine
end WebRecipe
