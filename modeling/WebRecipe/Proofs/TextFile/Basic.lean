import WebRecipe.Proofs.Files
import WebRecipe.Proofs.Resolving
import WebRecipe.Proofs.Schema

/-!
# Text files

The actions on text files look for the file of a name in the current directory. A value under a name
is written by one call of the file system, or not at all: when it does not count as true nothing is
written, and when the path leaves the base directory the action fails. Either way the store stays as
it is. Reading a file hands on its text, or the pieces of it between line breaks.

## Main definitions

* `Store.textPath?`: the path of the text file of a name.
* `Action.WritesText`: what writing a value to a text file comes to.
* `Engine.TextCall`: an action on the text file of a name is resolved.

## Main results

* `Text.splitChar_ended`, `Text.splitChar_intercalate`: pieces that are put together are found
  again.
* `Action.saveToText_writesText`, `Action.appendToText_writesText`: the two actions that write.
* `Action.run_readFromText`, `Action.readFromText_frame`: the action that reads.
-/

namespace WebRecipe

/-! ### Pieces of a text -/

namespace Text

variable {c : Char}

/-- A text without the character is one piece. -/
theorem splitChar_of_notMem {cs : List Char} (h : c ∉ cs) : splitChar c cs = [cs] := by
  induction cs with
  | nil => rfl
  | cons d cs ih =>
    rw [List.mem_cons, not_or] at h
    rw [splitChar, if_neg (Ne.symm h.1), ih h.2]

/-- A piece ends at the character. -/
theorem splitChar_append_cons {piece : List Char} (h : c ∉ piece) (rest : List Char) :
    splitChar c (piece ++ c :: rest) = piece :: splitChar c rest := by
  induction piece with
  | nil => rw [List.nil_append, splitChar, if_pos rfl]
  | cons d piece ih =>
    rw [List.mem_cons, not_or] at h
    rw [List.cons_append, splitChar, if_neg (Ne.symm h.1), ih h.2]

/-- Pieces that each end with the character are found again, before those of what follows. -/
theorem splitChar_ended {pieces : List (List Char)} (h : ∀ piece ∈ pieces, c ∉ piece)
    (rest : List Char) :
    splitChar c (pieces.flatMap (· ++ [c]) ++ rest) = pieces ++ splitChar c rest := by
  induction pieces with
  | nil => rfl
  | cons piece pieces ih =>
    rw [List.forall_mem_cons] at h
    rw [List.flatMap_cons, List.append_assoc, List.append_assoc, List.singleton_append,
      splitChar_append_cons h.1, ih h.2, List.cons_append]

/-- Pieces with the character between them are found again. -/
theorem splitChar_intercalate {pieces : List (List Char)} (hne : pieces ≠ [])
    (h : ∀ piece ∈ pieces, c ∉ piece) : splitChar c ([c].intercalate pieces) = pieces := by
  induction pieces with
  | nil => exact absurd rfl hne
  | cons piece pieces ih =>
    rw [List.forall_mem_cons] at h
    cases pieces with
    | nil =>
      rw [List.intercalate_singleton]
      exact splitChar_of_notMem h.1
    | cons next pieces =>
      rw [List.intercalate_cons_cons, List.append_assoc, List.singleton_append,
        splitChar_append_cons h.1, ih (List.cons_ne_nil _ _) h.2]

end Text

variable {σ : Type} {s : Surroundings σ} {w w' : World σ} {cx : Context} {ps : Members}
  {key name path : String}

/-! ### Paths of text files -/

/-- The path of the text file of a name, seen from the current directory or else from the base
directory, if it stays inside the base directory. -/
def Store.textPath? (st : Store) (name : String) : Option String :=
  (st.currentDir.or st.baseDir).bind fun dir ↦
    st.baseDir.bind fun base ↦ Path.confine base dir (name ++ ".txt")

/-- Only the two directories count. -/
theorem Store.textPath?_congr {st st' : Store} (hbase : st'.baseDir = st.baseDir)
    (hcurrent : st'.currentDir = st.currentDir) (name : String) :
    st'.textPath? name = st.textPath? name := by
  rw [textPath?, textPath?, hbase, hcurrent]

namespace Action

/-- An action ends as it is, with a result or without, as an option says. -/
private def Tells {α : Type} (s : Surroundings σ) (w : World σ) (x : Action α) (o : Option α) :
    Prop :=
  ∃ r : Except ActionError α, x.run.run s w = (some r, w) ∧ r.toOption = o

private theorem Tells.bind {α β : Type} {x : Action α} {o : Option α} {f : α → Action β}
    {g : α → Option β} (h : Tells s w x o) (hf : ∀ a, o = some a → Tells s w (f a) (g a)) :
    Tells s w (x >>= f) (o.bind g) := by
  obtain ⟨r, hrun, rfl⟩ := h
  cases r with
  | ok a =>
    obtain ⟨r', hrun', hr'⟩ := hf a rfl
    exact ⟨r', (run_bind_ok hrun).trans hrun', hr'⟩
  | error err => exact ⟨.error err, run_bind_error hrun, rfl⟩

private theorem baseDir_tells (action : String) :
    Tells s w (baseDir action) w.store.baseDir := by
  have hget : (getText Key.baseDir).run.run s w = (some (.ok w.store.baseDir), w) := rfl
  rw [Tells, baseDir, run_bind_ok hget]
  cases w.store.baseDir with
  | some dir => exact ⟨.ok dir, rfl, rfl⟩
  | none => exact ⟨.error _, rfl, rfl⟩

private theorem currentDir_tells (action : String) :
    Tells s w (currentDir action) (w.store.currentDir.or w.store.baseDir) := by
  have hget : (getText Key.currentDir).run.run s w = (some (.ok w.store.currentDir), w) := rfl
  rw [Tells, currentDir, run_bind_ok hget]
  cases w.store.currentDir with
  | some dir => exact ⟨.ok dir, rfl, rfl⟩
  | none => exact baseDir_tells action

private theorem textFile_tells (action name : String) :
    Tells s w (textFile action name) (w.store.textPath? name) := by
  refine (currentDir_tells action).bind fun dir _ ↦ (baseDir_tells action).bind fun base _ ↦ ?_
  cases Path.confine base dir (name ++ ".txt") with
  | some path => exact ⟨.ok path, rfl, rfl⟩
  | none => exact ⟨.error _, rfl, rfl⟩

/-! ### Writing -/

/-- What an action comes to that changes the text file of a name by the value under a key. -/
inductive WritesText (change : FileSystem → String → Json → FileSystem.Change) (key name : String)
    (w : World σ) : Option (Except ActionError Unit) × World σ → Prop
  | skipped (h : Json.isTruthy (w.store.get? key) = false) :
      WritesText change key name w (some (.ok ()), w)
  | refused {err : ActionError} (h : w.store.textPath? name = none) :
      WritesText change key name w (some (.error err), w)
  | changed {v : Json} {path line : String} {toError : FileError → ActionError}
      (hvalue : w.store.get? key = some v) (htrue : Json.isTruthy (some v) = true)
      (hpath : w.store.textPath? name = some path) :
      WritesText change key name w (some ((change w.files path v).1.mapError toError),
        { w.showing line with files := (change w.files path v).2 })

namespace WritesText

variable {change : FileSystem → String → Json → FileSystem.Change}
  {r : Option (Except ActionError Unit) × World σ}

/-- The store stays as it is. -/
theorem store_eq (h : WritesText change key name w r) : r.2.store = w.store := by
  cases h <;> rfl

/-- No file changes but that of the name. -/
theorem differsAt (h : WritesText change key name w r)
    (hchange : ∀ fs path v, FileSystem.DiffersAt path fs (change fs path v).2) :
    r.2.files = w.files ∨ ∃ path, w.store.textPath? name = some path ∧
      FileSystem.DiffersAt path w.files r.2.files := by
  cases h with
  | skipped => exact .inl rfl
  | refused => exact .inl rfl
  | changed _ _ hpath => exact .inr ⟨_, hpath, hchange _ _ _⟩

/-- An action that succeeds has left out a value that does not count as true, or has changed the
file by one that does. -/
theorem skipped_or_changed (h : WritesText change key name w (some (.ok ()), w')) :
    Json.isTruthy (w.store.get? key) = false ∧ w' = w ∨
      ∃ v path, w.store.get? key = some v ∧ Json.isTruthy (some v) = true ∧
        w.store.textPath? name = some path ∧ change w.files path v = (.ok (), w'.files) := by
  generalize hr : (some (Except.ok ()), w') = r at h
  cases h with
  | skipped hfalse =>
    cases hr
    exact .inl ⟨hfalse, rfl⟩
  | refused => cases hr
  | @changed v path line toError hvalue htrue hpath =>
    obtain ⟨hok, rfl⟩ := Prod.mk.inj hr
    refine .inr ⟨v, path, hvalue, htrue, hpath, Prod.ext ?_ rfl⟩
    cases hresult : (change w.files path v).1 with
    | ok => rfl
    | error err =>
      rw [hresult] at hok
      cases hok

/-- An action that succeeds has changed the file by a value that counts as true. -/
theorem exists_change {v : Json} (h : WritesText change key name w (some (.ok ()), w'))
    (hvalue : w.store.get? key = some v) (htrue : Json.isTruthy (some v) = true) :
    ∃ path, w.store.textPath? name = some path ∧ change w.files path v = (.ok (), w'.files) := by
  rcases h.skipped_or_changed with ⟨hfalse, -⟩ | ⟨u, path, hvalue', -, hpath, hchange⟩
  · rw [hvalue, htrue] at hfalse
    cases hfalse
  · rw [hvalue] at hvalue'
    cases hvalue'
    exact ⟨path, hpath, hchange⟩

end WritesText

/-- A parameter that is given is used. -/
theorem run_text_bind {α : Type} {action param text : String} (f : String → Action α)
    (h : ps.text? param = some text) :
    (ofExcept (ps.text action param) >>= f).run.run s w = (f text).run.run s w := by
  rw [Members.text, show (ps.get? param).bind Json.asStr? = some text from h]
  rfl

theorem run_get_bind {α : Type} (key : String) (f : Option Json → Action α) :
    (get key >>= f).run.run s w = (f (w.store.get? key)).run.run s w :=
  rfl

/-- An action writes a value that looks for the file of the name, shows a line and changes the file.
-/
private theorem writesText_of_change {change : FileSystem → String → Json → FileSystem.Change}
    {v : Json} {action : String} {line : String → String} {write : String → Action Unit}
    {toError : String → FileError → ActionError} (hvalue : w.store.get? key = some v)
    (htrue : Json.isTruthy (some v) = true)
    (hwrite : ∀ path (u : World σ), (write path).run.run s u =
      (some ((change u.files path v).1.mapError (toError path)),
        { u with files := (change u.files path v).2 })) :
    WritesText change key name w ((do
      let path ← textFile action name
      display (line path)
      write path : Action Unit).run.run s w) := by
  obtain ⟨r, hrun, hr⟩ := textFile_tells (s := s) (w := w) action name
  cases r with
  | error err =>
    rw [run_bind_error hrun]
    exact .refused hr.symm
  | ok path =>
    have hdisplay (f : Unit → Action Unit) : (display (line path) >>= f).run.run s w =
        (f ()).run.run s (w.showing (line path)) :=
      rfl
    rw [run_bind_ok hrun, hdisplay, hwrite]
    exact .changed hvalue htrue hr.symm

/-- A value is saved by writing its text to a file anew. -/
theorem saveToText_writesText (hkey : ps.text? "key" = some key)
    (hname : ps.text? "filename" = some name) :
    WritesText (fun fs path v ↦ fs.write path (fileText v).toUTF8) key name w
      ((saveToText cx ps).run.run s w) := by
  rw [saveToText, run_text_bind _ hkey, run_text_bind _ hname, run_get_bind]
  cases hvalue : w.store.get? key with
  | none => exact .skipped (by rw [hvalue]; rfl)
  | some v =>
    cases htrue : Json.isTruthy (some v) with
    | false => exact .skipped (hvalue ▸ htrue)
    | true =>
      rw [if_pos rfl]
      exact writesText_of_change hvalue htrue fun path u ↦ rfl

/-- The text that is written at the end of a file for a value. -/
def appendedText (v : Json) : String :=
  if isList v then fileText v else v.text ++ "\n"

/-- A value is appended by writing its text at the end of a file. -/
theorem appendToText_writesText (hkey : ps.text? "key" = some key)
    (hname : ps.text? "filename" = some name) :
    WritesText (fun fs path v ↦ fs.append path (appendedText v).toUTF8) key name w
      ((appendToText cx ps).run.run s w) := by
  rw [appendToText, run_text_bind _ hkey, run_text_bind _ hname, run_get_bind]
  cases hvalue : w.store.get? key with
  | none => exact .skipped (by rw [hvalue]; rfl)
  | some v =>
    dsimp only
    cases htrue : Json.isTruthy (some v) with
    | false => exact .skipped (hvalue ▸ htrue)
    | true =>
      rw [if_pos rfl]
      exact writesText_of_change hvalue htrue fun path u ↦ rfl

/-! ### Reading -/

/-- What is handed on of a text: the text, or the list of its pieces between line breaks. -/
def handedOn (breakLine : Bool) (text : String) : Json :=
  if breakLine then .arr ((Text.splitChar '\n' text.toList).map fun l ↦ .str (String.ofList l))
  else .str text

/-- What an action comes to that reads the text file of a name. -/
inductive ReadsText (breakLine : Bool) (name : String) (w : World σ) :
    Option (Except ActionError Unit) × World σ → Prop
  | refused {err : ActionError} (h : w.store.textPath? name = none) :
      ReadsText breakLine name w (some (.error err), w)
  | failed {path line : String} {reason : FileError} {err : ActionError}
      (hpath : w.store.textPath? name = some path) (h : w.files.readText path = .error reason) :
      ReadsText breakLine name w (some (.error err), w.showing line)
  | read {path line text : String} (hpath : w.store.textPath? name = some path)
      (h : w.files.readText path = .ok text) :
      ReadsText breakLine name w
        (some (.ok ()), (w.showing line).putting Key.input (handedOn breakLine text))

namespace ReadsText

variable {breakLine : Bool} {r : Option (Except ActionError Unit) × World σ}

/-- No file changes, and no value but the one that is handed on. -/
theorem unchanged (h : ReadsText breakLine name w r) :
    r.2.files = w.files ∧ ∀ key, key ≠ Key.input → r.2.store.get? key = w.store.get? key := by
  cases h with
  | refused => exact ⟨rfl, fun _ _ ↦ rfl⟩
  | failed => exact ⟨rfl, fun _ _ ↦ rfl⟩
  | read => exact ⟨rfl, fun _ hkey ↦ Store.get?_put_other hkey⟩

/-- The text of a file that can be read is handed on. -/
theorem exists_input {text : String} (h : ReadsText breakLine name w r)
    (hpath : w.store.textPath? name = some path) (htext : w.files.readText path = .ok text) :
    ∃ w', r = (some (.ok ()), w') ∧ w'.store.input = some (handedOn breakLine text) := by
  cases h with
  | refused hno =>
    rw [hno] at hpath
    cases hpath
  | failed hpath' hfails =>
    obtain rfl := Option.some.inj (hpath'.symm.trans hpath)
    rw [hfails] at htext
    cases htext
  | read hpath' htext' =>
    obtain rfl := Option.some.inj (hpath'.symm.trans hpath)
    obtain rfl := Except.ok.inj (htext'.symm.trans htext)
    exact ⟨_, rfl, World.input_putting _ _⟩

end ReadsText

/-- An action reads that looks for the file of the name, shows a line and hands on what is in the
file. -/
private theorem readsText_of_hand {breakLine : Bool} (action operation : String)
    (line : String → String) {hand : String → Action Unit}
    (hhand : ∀ text (u : World σ), (hand text).run.run s u =
      (some (.ok ()), u.putting Key.input (handedOn breakLine text))) :
    ReadsText breakLine name w ((do
      let path ← textFile action name
      display (line path)
      hand (← file action operation (.readText path)) : Action Unit).run.run s w) := by
  obtain ⟨r, hrun, hr⟩ := textFile_tells (s := s) (w := w) action name
  cases r with
  | error err =>
    rw [run_bind_error hrun]
    exact .refused hr.symm
  | ok path =>
    have hcalls : (do
        display (line path)
        hand (← file action operation (.readText path)) : Action Unit).run.run s w =
          (ofExcept ((w.files.readText path).mapError (.file action operation path)) >>=
            hand).run.run s (w.showing (line path)) :=
      rfl
    rw [run_bind_ok hrun, hcalls]
    cases htext : w.files.readText path with
    | error reason => exact .failed hr.symm htext
    | ok text => exact (hhand text _).symm ▸ .read hr.symm htext

/-- A file is read and its text handed on. -/
theorem readFromText_readsText (hname : ps.text? "filename" = some name) :
    ReadsText (ps.bool "breakLine" false) name w ((readFromText cx ps).run.run s w) := by
  have hhand (text : String) (u : World σ) :
      (if ps.bool "breakLine" false then
        setInput (.arr ((Text.splitChar '\n' text.toList).map fun l ↦ .str (String.ofList l)))
      else setInput (.str text) : Action Unit).run.run s u =
        (some (.ok ()), u.putting Key.input (handedOn (ps.bool "breakLine" false) text)) := by
    cases ps.bool "breakLine" false <;> rfl
  rw [readFromText, run_text_bind _ hname]
  have hreads : ReadsText (ps.bool "breakLine" false) name w _ :=
    readsText_of_hand "readFromText" "read" (": Loading file " ++ ·) hhand
  exact hreads

end Action

namespace Engine

/-- An action on the text file of a name is resolved: the action is a built-in one, and the name of
the file is among its parameters. -/
structure TextCall (e : Engine) (s : Surroundings σ) (action name : String) (call : ActionCall)
    (w w' : World σ) (p : Prepared) : Prop where
  builtin : e.registry.get? action = Action.builtinRegistry.get? action
  named : call.name = action
  prepared : (e.prepare call).run.run s w = (some (.ok p), w')
  file : p.params.text? "filename" = some name

namespace TextCall

variable {e : Engine} {action : String} {call : ActionCall} {p : Prepared} {handler : Handler}

/-- The action comes to what its handler does. -/
theorem run_eq (h : e.TextCall s action name call w w' p)
    (hhandler : Action.builtinRegistry.get? action = some handler) (depth : Nat) :
    (e.performWithin (depth + 1) call).run.run s w =
      (handler (e.context depth p) p.params).run.run s w' :=
  performWithin_of_handler (h.builtin.trans hhandler) h.named h.prepared depth

theorem announced (h : e.TextCall s action name call w w' p) : w.OnlyAnnounced action w' :=
  h.named ▸ (announced_of_prepared h.prepared).2.2

/-- Resolving an action leaves the path of the file as it is. -/
theorem textPath?_eq (h : e.TextCall s action name call w w' p) (name : String) :
    w'.store.textPath? name = w.store.textPath? name :=
  Store.textPath?_congr (congrArg (·.bind Json.asStr?) (h.announced.values _ (by decide)))
    (congrArg (·.bind Json.asStr?) (h.announced.values _ (by decide))) name

/-- An action whose parameters have no templates and are as they should be is resolved. -/
theorem of_plain (hbuiltin : e.registry.get? action = Action.builtinRegistry.get? action)
    (hhandler : Action.builtinRegistry.get? action = some handler) (hplain : (Json.obj ps).Plain)
    (hchecked : Schema.validate action ps = .ok ps) (hfile : ps.text? "filename" = some name)
    (w : World σ) : e.TextCall s action name ⟨action, some ps, true⟩ w
      ((w.showing (announcement ++ action)).putting Key.params (.obj ps))
      ⟨handler, ps, w.store.activePage⟩ where
  builtin := hbuiltin
  named := rfl
  prepared := by
    have hresolved : ActionCall.resolvedIn ⟨action, some ps, true⟩ w.store = ps :=
      Placeholder.resolveMembers_eq_self hplain
    rw [run_prepare, hresolved]
    dsimp only
    rw [hchecked, hbuiltin, hhandler]
  file := hfile

end TextCall

/-! ### A directory -/

/-- A world with a base directory in which there is one file, and with further values in the store.
-/
def directoryWorld (content : String) (values : Members) : World Rehearsal where
  store := { values := (Key.baseDir, .str "/r") :: values }
  files :=
    { entries := [(["r".toList], .dir), (["r".toList, "f.txt".toList], .file content.toUTF8)] }
  rest := {}

end Engine
end WebRecipe
