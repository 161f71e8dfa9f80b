import WebRecipe.Action.Builtin
import WebRecipe.Proofs.Routine.Footprint

/-!
# Refusing to leave the base directory

An action on files that is given a path that leads out of the base directory fails before it has
touched anything, and says which path it was. Where an action goes depends on its parameters and on
the two directories in the store, which nobody changes before the path is looked at.

## Main definitions

* `Routine.Settles`: a routine ends, having touched no path.
* `Action.Yields`: an action ends with an outcome, having done nothing yet.
* `Action.Aims`: where an action on files goes.
* `Action.leaves`: the failure of an action that would leave the base directory.

## Main results

* `Routine.Settles.sound`: what is shown along the tree holds of a run.
* `Action.Aims.refuses`: an action refuses to leave the base directory.
-/

namespace WebRecipe

variable {σ α β : Type}

/-! ### Routines that touch nothing -/

/-- A routine that has the world for itself ends without having touched a path, with a result and in
a world as wanted. -/
def Routine.Settles (s : Surroundings σ) (post : α → World σ → Prop) (w : World σ) :
    Routine α → Prop
  | .done a => post a w
  | .unfinished => False
  | .step c next =>
    c.path? = none ∧ Settles s post (w.answer s c).2 (next (w.answer s c).1)

namespace Routine.Settles

variable {s : Surroundings σ} {post : α → World σ → Prop} {w : World σ} {r : Routine α}

/-- What is shown along the tree holds of the end of a run, and of its moments. -/
theorem sound (h : r.Settles s post w) :
    (∃ a, (r.run s w).1 = some a ∧ post a (r.run s w).2) ∧
      ∀ author, ∀ m ∈ r.moments s author w, m.command.path? = none := by
  induction r generalizing w with
  | done a => exact ⟨⟨a, rfl, h⟩, fun _ m hm ↦ absurd hm List.not_mem_nil⟩
  | unfinished => exact h.elim
  | step c next ih =>
    obtain ⟨hend, hmoments⟩ := ih _ h.2
    refine ⟨hend, fun author ↦ ?_⟩
    rw [moments, List.forall_mem_cons]
    exact ⟨h.1, hmoments _⟩

theorem bind {f : α → Routine β} {fin : β → World σ → Prop} (h : r.Settles s post w)
    (hf : ∀ a w, post a w → (f a).Settles s fin w) : (r >>= f).Settles s fin w := by
  induction r generalizing w with
  | done a => exact hf a w h
  | unfinished => exact h.elim
  | step c next ih => exact ⟨h.1, ih _ h.2⟩

/-- A routine that touches no path, whatever happens, settles if its run ends. -/
theorem of_run {may : Command → Prop} {any : α → Prop} (h : r.Within s may any)
    (hmay : ∀ c, may c → c.path? = none) {a : α} {w' : World σ}
    (hrun : r.run s w = (some a, w')) : r.Settles s (fun b v ↦ b = a ∧ v = w') w := by
  induction r generalizing w with
  | done b =>
    cases hrun
    exact ⟨rfl, rfl⟩
  | unfinished => cases hrun
  | step c next ih => exact ⟨hmay c h.1, ih _ (h.2 w) hrun⟩

end Routine.Settles

namespace Action

/-- In a world with the store, an action ends with an outcome, having touched no path and left the
store as it is. -/
structure Yields (s : Surroundings σ) (st : Store) (x : Action α) (r : Except ActionError α) :
    Prop where
  settles : ∀ w : World σ, w.store = st → x.run.Settles s (fun r' v ↦ r' = r ∧ v.store = st) w

variable {s : Surroundings σ} {st : Store}

namespace Yields

variable {x y : Action α} {a : α} {r : Except ActionError α} {e : ActionError} {f : α → Action β}

/-- The second of two actions in a row is reached when the first one succeeds. -/
theorem bind {r : Except ActionError β} (h : Yields s st x (.ok a)) (hf : Yields s st (f a) r) :
    Yields s st (x >>= f) r := by
  constructor
  intro w hw
  rw [ExceptT.run_bind]
  refine (h.settles w hw).bind ?_
  rintro r' v ⟨rfl, hv⟩
  exact hf.settles v hv

/-- An action that fails is the end of what follows. -/
theorem bind_error (h : Yields s st x (.error e)) : Yields s st (x >>= f) (.error e) := by
  constructor
  intro w hw
  rw [ExceptT.run_bind]
  refine (h.settles w hw).bind ?_
  rintro r' v ⟨rfl, hv⟩
  exact ⟨rfl, hv⟩

theorem pure : Yields s st (Pure.pure a : Action α) (.ok a) :=
  ⟨fun _ hw ↦ ⟨rfl, hw⟩⟩

theorem throw : Yields s st (MonadExcept.throw e : Action α) (.error e) :=
  ⟨fun _ hw ↦ ⟨rfl, hw⟩⟩

theorem ite_pos {c : Prop} [Decidable c] (hc : c) (h : Yields s st x r) :
    Yields s st (if c then x else y) r := by
  rwa [if_pos hc]

theorem ite_neg {c : Prop} [Decidable c] (hc : ¬ c) (h : Yields s st y r) :
    Yields s st (if c then x else y) r := by
  rwa [if_neg hc]

/-- A text that is among the parameters. -/
theorem text {ps : Members} {action key v : String} (h : ps.text? key = some v) :
    Yields s st (Action.ofExcept (ps.text action key)) (.ok v) := by
  rw [Members.text, show (ps.get? key).bind Json.asStr? = some v from h]
  exact pure

theorem display {line : String} : Yields s st (Action.display line) (.ok ()) :=
  ⟨fun _ hw ↦ ⟨rfl, rfl, hw⟩⟩

theorem get {key : String} : Yields s st (Action.get key) (.ok (st.get? key)) :=
  ⟨fun _ hw ↦ ⟨rfl, congrArg (fun st ↦ Except.ok (Store.get? st key)) hw, hw⟩⟩

theorem getText {key : String} : Yields s st (Action.getText key) (.ok (st.text? key)) :=
  get.bind pure

end Yields

/-! ### Looking at a path -/

/-- The failure of an action that is given a path that leaves the base directory. -/
def leaves (action path : String) : ActionError :=
  .failed action ("Path " ++ path ++ " leaves the base directory")

/-- The directory that a path is seen from, when the parameters may ask for the base directory. -/
def startIn (ps : Members) (base : String) (st : Store) : String :=
  if ps.bool "useBaseDir" false then base else st.currentDir.getD base

section Paths

variable {base action path : String} (hbase : st.baseDir = some base)

include hbase

private theorem baseDir_yields : Yields s st (baseDir action) (.ok base) := by
  refine Yields.getText.bind ?_
  rw [show st.text? Key.baseDir = some base from hbase]
  exact .pure

private theorem currentDir_yields :
    Yields s st (currentDir action) (.ok (st.currentDir.getD base)) := by
  refine Yields.getText.bind ?_
  rw [show st.text? Key.currentDir = st.currentDir from rfl]
  cases st.currentDir with
  | some dir => exact .pure
  | none => exact baseDir_yields hbase

private theorem startDir_yields {ps : Members} :
    Yields s st (startDir action ps) (.ok (startIn ps base st)) := by
  rw [startDir, startIn]
  split
  · exact baseDir_yields hbase
  · exact currentDir_yields hbase

private theorem confined_refuses {dir : String} (hleaves : Path.confine base dir path = none) :
    Yields s st (confined action dir path) (.error (leaves action path)) := by
  refine (baseDir_yields hbase).bind ?_
  rw [hleaves]
  exact .throw

private theorem inCurrent_refuses
    (hleaves : Path.confine base (st.currentDir.getD base) path = none) :
    Yields s st (inCurrent action path) (.error (leaves action path)) :=
  (currentDir_yields hbase).bind (confined_refuses hbase hleaves)

end Paths

/-! ### Where actions go -/

/-- Where an action on files goes: the directory that it starts from, and the path that it takes
from there. An action with a parameter missing goes nowhere, and neither does one that has nothing
to write. -/
inductive Aims (ps : Members) (base : String) (st : Store) :
    String → Handler → String → String → Prop
  | setCurrentDir {dir : String} (given : ps.text? "dir" = some dir) :
      Aims ps base st "setCurrentDir" setCurrentDir (startIn ps base st) (Path.sanitize dir)
  | createDir {dir : String} (given : ps.text? "dir" = some dir) :
      Aims ps base st "createDir" createDir (startIn ps base st) (Path.sanitize dir)
  | deleteFolder {name : String} (given : ps.text? "foldername" = some name) :
      Aims ps base st "deleteFolder" deleteFolder (st.currentDir.getD base) name
  | createFile {name : String} (given : ps.text? "filename" = some name) :
      Aims ps base st "createFile" createFile (st.currentDir.getD base) (name ++ ".txt")
  | readFromText {name : String} (given : ps.text? "filename" = some name) :
      Aims ps base st "readFromText" readFromText (st.currentDir.getD base) (name ++ ".txt")
  | saveToText {key name : String} (keyed : ps.text? "key" = some key)
      (given : ps.text? "filename" = some name) (truthy : Json.isTruthy (st.get? key) = true) :
      Aims ps base st "saveToText" saveToText (st.currentDir.getD base) (name ++ ".txt")
  | appendToText {key name : String} (keyed : ps.text? "key" = some key)
      (given : ps.text? "filename" = some name) (truthy : Json.isTruthy (st.get? key) = true) :
      Aims ps base st "appendToText" appendToText (st.currentDir.getD base) (name ++ ".txt")
  | deleteFile {name : String} (given : ps.text? "filename" = some name) :
      Aims ps base st "deleteFile" deleteFile (st.currentDir.getD base) (name ++ ".txt")
  | fileExists {name : String} (given : ps.text? "filename" = some name) :
      Aims ps base st "fileExists" fileExists (st.currentDir.getD base) name
  | checkStringInFile {name needle : String} (given : ps.text? "filename" = some name)
      (sought : ps.text? "string" = some needle) :
      Aims ps base st "checkStringInFile" checkStringInFile (st.currentDir.getD base)
        (name ++ ".txt")
  | download {url : String} (given : ps.text? "url" = some url)
      (named : (Path.sanitize ((ps.text? "filename").getD (fileNameOf url))).isEmpty = false) :
      Aims ps base st "download" download (st.currentDir.getD base)
        (Path.sanitize ((ps.text? "filename").getD (fileNameOf url)))

namespace Aims

variable {ps : Members} {base name dir path : String} {h : Handler}

/-- The handler is the built-in one of the name. -/
theorem lookup_builtins (haims : Aims ps base st name h dir path) :
    builtins.lookup name = some h := by
  cases haims <;> simp [builtins, List.lookup_cons]

/-- **An action refuses to leave the base directory.** -/
theorem refuses (haims : Aims ps base st name h dir path) (hbase : st.baseDir = some base)
    (hleaves : Path.confine base dir path = none) (cx : Context) :
    Yields s st (h cx ps) (.error (leaves name path)) := by
  cases haims with
  | setCurrentDir given =>
    refine (Yields.text given).bind ?_
    exact (startDir_yields hbase).bind (confined_refuses hbase hleaves).bind_error
  | createDir given =>
    refine (Yields.text given).bind (Yields.display.bind ?_)
    exact (startDir_yields hbase).bind (confined_refuses hbase hleaves).bind_error
  | deleteFolder given =>
    exact (Yields.text given).bind (inCurrent_refuses hbase hleaves).bind_error
  | createFile given =>
    exact (Yields.text given).bind (inCurrent_refuses hbase hleaves).bind_error
  | readFromText given =>
    exact (Yields.text given).bind (inCurrent_refuses hbase hleaves).bind_error
  | saveToText keyed given truthy =>
    refine (Yields.text keyed).bind ((Yields.text given).bind (Yields.get.bind ?_))
    exact .ite_pos truthy (inCurrent_refuses hbase hleaves).bind_error
  | @appendToText key name keyed given truthy =>
    refine (Yields.text keyed).bind ((Yields.text given).bind (Yields.get.bind ?_))
    cases hvalue : st.get? key with
    | none =>
      rw [hvalue] at truthy
      cases truthy
    | some value =>
      rw [hvalue] at truthy
      exact .ite_pos truthy (inCurrent_refuses hbase hleaves).bind_error
  | deleteFile given =>
    exact (Yields.text given).bind (inCurrent_refuses hbase hleaves).bind_error
  | fileExists given =>
    exact (Yields.text given).bind (inCurrent_refuses hbase hleaves).bind_error
  | checkStringInFile given sought =>
    refine (Yields.text given).bind ((Yields.text sought).bind ?_)
    exact (inCurrent_refuses hbase hleaves).bind_error
  | download given named =>
    refine (Yields.text given).bind (.ite_neg ?_ (inCurrent_refuses hbase hleaves).bind_error)
    exact Bool.eq_false_iff.1 named

end Aims
end Action
end WebRecipe
