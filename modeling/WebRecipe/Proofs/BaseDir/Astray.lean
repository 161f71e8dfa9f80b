import WebRecipe.Proofs.BaseDir.Refusal
import WebRecipe.Proofs.BaseDir.Session

/-!
# Actions on files wherever the current directory is

The current directory is a value of the store, and an action on variables can put any text under its
name. The actions on files that confine their paths stay inside the base directory all the same: a
path that leads out of it is refused before anything is touched. Listing folders and taking
pictures follow the current directory out of the base directory.

## Main definitions

* `fileActions`: the actions that touch files, other than the one that sets the base directory.
* `Admitted`, `admission`: the paths that may be touched, and the contract of touching no others.
* `WorksIn`: what the two directories are in the store.

## Main results

* `Engine.fileActions_confined`: what an action on files touches, and when it is refused.
* `Engine.screenshot_leaves_base`: a picture outside the base directory.
-/

namespace WebRecipe

open WebRecipe.Path

variable {σ : Type} {s : Surroundings σ} {base name : String} {current : Option String}
  {author : Option String} {w : World σ}

/-- The actions that touch files, other than the one that sets the base directory. -/
def fileActions : List String :=
  ["setCurrentDir", "resetCurrentDir", "backToParentDir", "createDir", "deleteFolder",
    "listFolders", "createFile", "readFromText", "saveToText", "appendToText", "deleteFile",
    "fileExists", "checkStringInFile", "download", "screenshot", "screenshotElement", "login"]

/-! ### Admitted paths -/

/-- The paths that an action may touch: those inside the base directory, and those that it does not
confine. -/
def Admitted (base : String) (current : Option String) (name path : String) : Prop :=
  Inside base path ∨ Unconfined base current name path

/-- The contract of touching only paths that are admitted. -/
def admission (s : Surroundings σ) (base : String) (current : Option String) (name : String) :
    Contract σ where
  surroundings := s
  assumes _ := True
  guarantees m := ∀ path, m.command.path? = some path → Admitted base current name path

/-- What the store says of the two directories: what the base directory is, and what the current
directory is if it is a text. -/
structure WorksIn (base : String) (current : Option String) (_ : Option String) (w : World σ) :
    Prop where
  baseDir : w.store.baseDir = some base
  currentDir : w.store.currentDir = current

/-- A command that does not write a directory leaves both as they are. -/
private theorem WorksIn.answer {c : Command} (h : WorksIn base current author w)
    (hwrites : ¬ c.WritesDir) :
    WorksIn base current (c.latest author) (w.answer s c).2 where
  baseDir := (congrArg (·.bind Json.asStr?) (World.get?_answer (.inl rfl) hwrites)).trans h.baseDir
  currentDir :=
    (congrArg (·.bind Json.asStr?) (World.get?_answer (.inr rfl) hwrites)).trans h.currentDir

private theorem admission_frames :
    (admission s base current name).Frames (WorksIn base current) where
  idle hw hwrites hpath := ⟨fun _ h ↦ (nomatch hpath.symm.trans h), hw.answer hwrites⟩

/-- The contract is all that an action on files needs. -/
private theorem admission_confines (hbase : Encloses base) :
    (admission s base current name).Confines name base (Admitted base current name)
      (WorksIn base current) where
  frames := admission_frames
  encloses := hbase
  baseDir hw := hw.baseDir
  inside h := .inl h
  unconfined hw h := .inr (hw.currentDir ▸ h)
  touch := by
    intro author w c path hw hpath hadmitted _
    refine ⟨fun path' hpath' ↦ ?_, hw.answer ?_⟩
    · cases hpath.symm.trans hpath'
      exact hadmitted
    · cases c with
      | store => cases hpath
      | _ => exact not_false

namespace Engine

variable {e : Engine} {call : ActionCall}

/-! ### What is touched -/

section Touched

variable (hreg : e.registry = Action.builtinRegistry) (hw : WorksIn base current author w)

include hreg hw

/-- An action that moves the current directory touches what is admitted. -/
private theorem moves_admits (hname : call.name = name) {h : Handler}
    (hbuiltin : Action.builtins.lookup name = some h) {wanted : String → Prop}
    (hmoves : ∀ cx ps,
      (admission s base current name).Moves (WorksIn base current) wanted (h cx ps)) (depth : Nat) :
    (admission s base current name).Ensures (fun _ _ _ ↦ True) author w
      (e.performWithin depth call).run := by
  cases depth with
  | zero => trivial
  | succ depth =>
    refine e.ensures_prepare_bind hw (prepares_keeps admission_frames) (fun _ _ _ _ ↦ trivial)
      fun p w hw hget ↦ ?_
    rw [dispatch, handler_eq hreg hget (hname ▸ hbuiltin)]
    exact (hmoves _ _).ensures hw (fun _ _ _ _ _ _ ↦ ⟨fun _ h ↦ (by cases h), trivial⟩)
      fun _ _ _ _ ↦ trivial

/-- An action on files touches what is admitted. -/
private theorem performWithin_admits (hname : call.name ∈ fileActions) (hbase : Encloses base)
    (depth : Nat) :
    (admission s base current call.name).Ensures (fun _ _ _ ↦ True) author w
      (e.performWithin depth call).run := by
  by_cases hmoving : call.name ∈ movingActions
  · -- the three that move the current directory do so as the last thing
    have hthree : ∀ name ∈ fileActions, name ∈ movingActions →
        name = "setCurrentDir" ∨ name = "resetCurrentDir" ∨ name = "backToParentDir" := by
      decide
    rcases hthree _ hname hmoving with h | h | h
    · rw [h]
      exact moves_admits hreg hw h (by simp [Action.builtins, List.lookup_cons])
        (Action.setCurrentDir_moves (admission_confines hbase)) depth
    · rw [h]
      exact moves_admits hreg hw h (by simp [Action.builtins, List.lookup_cons])
        (Action.resetCurrentDir_moves (admission_confines hbase)) depth
    · rw [h]
      exact moves_admits hreg hw h (by simp [Action.builtins, List.lookup_cons])
        (Action.backToParentDir_moves (admission_confines hbase)) depth
  · exact ((performWithin_keeps hreg depth hmoving (admission_confines hbase)).ensures author w
      hw).mono fun _ _ _ _ ↦ trivial

end Touched

/-! ### What is refused -/

/-- The preparation of an action consists of the commands for it. -/
private theorem prepare_prepares :
    (e.prepare call).run.Within s (·.Prepares call.name) (fun _ ↦ True) := by
  have hcommand {c : Command} (hc : c.Prepares call.name) :
      (Action.command c).run.Within s (·.Prepares call.name) (fun _ ↦ True) :=
    ⟨hc, fun _ ↦ trivial⟩
  rw [prepare]
  refine .run_bind (hcommand .announce) fun _ ↦ ?_
  refine .run_bind (hcommand (.put _)) fun _ ↦ ?_
  refine .run_bind (hcommand (.resolve _)) fun resolved ↦ ?_
  refine .run_bind (hcommand (.put _)) fun _ ↦ ?_
  refine .run_bind trivial fun params ↦ ?_
  refine .run_bind (hcommand (.put _)) fun _ ↦ ?_
  split
  · trivial
  · exact .run_bind (hcommand .activePage) fun _ ↦ trivial

/-- When an action is prepared, its handler is the one of its name, and the base directory is as it
was. -/
private theorem of_prepared (hw : WorksIn base current none w) {p : Prepared} {w' : World σ}
    (hrun : (e.prepare call).run.run s w = (some (.ok p), w')) :
    e.registry.get? call.name = some p.handler ∧ w'.store.baseDir = some base := by
  have hframes : (admission s base current call.name).Frames (WorksIn base current) :=
    admission_frames
  have hensures := e.ensures_prepare hw fun c author w hc ↦
    prepares_keeps hframes c author w (hc : c.Prepares call.name)
  obtain ⟨author, hw', hp⟩ := (hensures.sound fun _ _ ↦ trivial).2 _ _ hrun
  exact ⟨(hp p rfl).2, hw'.baseDir⟩

/-- An action that is prepared to go out of the base directory is refused. -/
private theorem settles_of_aims (hreg : e.registry = Action.builtinRegistry)
    (hbase : w.store.baseDir = some base) {p : Prepared} {w' : World σ}
    (hrun : (e.prepare call).run.run s w = (some (.ok p), w')) {h : Handler} {dir path : String}
    (haims : Action.Aims p.params base w'.store call.name h dir path)
    (hleaves : confine base dir path = none) (depth : Nat) :
    (e.performWithin (depth + 1) call).run.Settles s
      (fun r v ↦ r = .error (Action.leaves call.name path) ∧ v.store = w'.store) w := by
  obtain ⟨hget, hbase'⟩ := of_prepared ⟨hbase, rfl⟩ hrun
  have hprepare := Routine.Settles.of_run prepare_prepares (fun c hc ↦ by cases hc <;> rfl) hrun
  rw [performWithin, ExceptT.run_bind]
  refine hprepare.bind ?_
  rintro r v ⟨rfl, rfl⟩
  have hhandler : p.handler = h := handler_eq hreg hget haims.lookup_builtins
  rw [← hhandler] at haims
  exact (haims.refuses hbase' hleaves _).settles v rfl

/-- **What an action on files touches.** The base directory is a normalized absolute path other than
the root, and the current directory is whatever its name stands for in the store. Performing an
action on files, whatever its parameters, touches paths inside the base directory only, with
the exception of listing folders and taking pictures where the current directory is not inside the
base directory. An action that is given a path that leads out of the base directory fails and says
so, and has touched nothing. -/
theorem fileActions_confined (s : Surroundings σ) (e : Engine)
    (hreg : e.registry = Action.builtinRegistry) {base : String} (habs : isAbsolute base = true)
    (hnormal : normalize base = base) (hroot : base ≠ "/") (w : World σ)
    (hbase : w.store.baseDir = some base) (call : ActionCall) (hname : call.name ∈ fileActions) :
    (∀ depth author, ∀ m ∈ (e.performWithin depth call).run.moments s author w,
      ∀ path, m.command.path? = some path → Inside base path ∨
        Unconfined base w.store.currentDir call.name path ∧
          ∃ dir, w.store.currentDir = some dir ∧ ¬ Inside base dir) ∧
    ∀ p w', (e.prepare call).run.run s w = (some (.ok p), w') →
      ∀ h dir path, Action.Aims p.params base w'.store call.name h dir path →
        confine base dir path = none → ∀ depth,
          ((e.performWithin (depth + 1) call).run.run s w).1 =
            some (.error (Action.leaves call.name path)) ∧
          ∀ author, ∀ m ∈ (e.performWithin (depth + 1) call).run.moments s author w,
            m.command.path? = none := by
  have henclosed := encloses_of_normalize habs hnormal hroot
  refine ⟨fun depth author m hm path hpath ↦ ?_,
    fun p w' hrun h dir path haims hleaves depth ↦ ?_⟩
  · have hw : WorksIn base w.store.currentDir author w := ⟨hbase, rfl⟩
    have hensures := performWithin_admits (s := s) hreg hw hname henclosed depth
    rcases (hensures.sound fun _ _ ↦ trivial).1 m hm path hpath with hinside | hunconfined
    · exact .inl hinside
    · by_cases hcurrent : ∀ dir, w.store.currentDir = some dir → Inside base dir
      · exact .inl (hunconfined.inside hcurrent)
      · obtain ⟨dir, hdir⟩ := Classical.not_forall.1 hcurrent
        exact .inr ⟨hunconfined, dir, Classical.not_imp.1 hdir⟩
  · obtain ⟨⟨r, hr, rfl, -⟩, hmoments⟩ :=
      (settles_of_aims hreg hbase hrun haims hleaves depth).sound
    exact ⟨hr, hmoments⟩

/-- A page is opened, the base directory is set to `/r/a`, and then a variable is set in place of
the current directory. -/
def strayingCalls : List ActionCall :=
  [⟨"newPage", some [("pageKey", .str "p")], true⟩,
    ⟨"switchPage", some [("pageKey", .str "p")], true⟩,
    ⟨"setBaseDir", some [("dir", .str "a")], true⟩,
    ⟨"setVariable", some [("key", .str Key.currentDir), ("value", .str "/r")], true⟩]

/-- The world after these calls. -/
def strayWorld : World Rehearsal :=
  ((rootEngine.session strayingCalls).run Rehearsal.surroundings { rest := {} }).2

/-- Making a file in the current directory. -/
def creatingFile : ActionCall :=
  ⟨"createFile", some [("filename", .str "b")], true⟩

/-- A file is not made outside the base directory. -/
theorem fileActions_confined_creatingFile :
    ((rootEngine.performWithin 2 creatingFile).run.run Rehearsal.surroundings strayWorld).1 =
        some (.error (Action.leaves "createFile" "b.txt")) ∧
      ∀ m ∈ (rootEngine.performWithin 2 creatingFile).run.moments Rehearsal.surroundings none
        strayWorld, m.command.path? = none := by
  have hbase : strayWorld.store.baseDir = some "/r/a" := by decide +kernel
  have hparams : ((((rootEngine.prepare creatingFile).run.run Rehearsal.surroundings
      strayWorld).1.bind Except.toOption).map fun p ↦ p.params.text? "filename") =
        some (some "b") := by
    decide +kernel
  have hleaves : confine "/r/a" (((rootEngine.prepare creatingFile).run.run Rehearsal.surroundings
      strayWorld).2.store.currentDir.getD "/r/a") ("b" ++ ".txt") = none := by
    decide +kernel
  obtain ⟨p, hp, hgiven⟩ := Option.map_eq_some_iff.1 hparams
  obtain ⟨r, hr, hok⟩ := Option.bind_eq_some_iff.1 hp
  cases r with
  | error err => cases hok
  | ok p' =>
    cases hok
    exact (fileActions_confined Rehearsal.surroundings rootEngine rfl (by decide) (by decide)
      (by decide) strayWorld hbase creatingFile (by decide)).2 p _ (Prod.ext hr rfl) _ _ _
      (.createFile hgiven) hleaves 1 |>.imp_right (· none)

/-- Taking a picture of the page. -/
def takingPicture : ActionCall :=
  ⟨"screenshot", some [("name", .str "shot")], true⟩

/-- A picture is taken outside the base directory. -/
theorem screenshot_leaves_base :
    strayWorld.store.baseDir = some "/r/a" ∧
      ((rootEngine.perform takingPicture).run.run Rehearsal.surroundings strayWorld).1.map
        Except.isOk = some true ∧
      ∃ m ∈ (rootEngine.perform takingPicture).run.moments Rehearsal.surroundings none strayWorld,
        ∃ path, m.command.path? = some path ∧ ¬ Inside "/r/a" path := by
  refine ⟨by decide +kernel, by decide +kernel, ?_⟩
  have hpath : "/r/shot.png" ∈ ((rootEngine.perform takingPicture).run.moments
      Rehearsal.surroundings none strayWorld).filterMap (·.command.path?) := by
    decide +kernel
  obtain ⟨m, hm, hpath⟩ := List.mem_filterMap.1 hpath
  exact ⟨m, hm, _, hpath, fun hinside ↦ absurd hinside.isWithin (by decide)⟩

end Engine
end WebRecipe
