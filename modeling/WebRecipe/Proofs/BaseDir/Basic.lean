import WebRecipe.Proofs.Files
import WebRecipe.Proofs.Footprint.Values

/-!
# Working inside the base directory

The two directories of a run are values of its store: the base directory, which is directly in the
directory of resources, and the current directory, which is the base directory or inside it. The
contract of this file guarantees this at every moment, and that no path outside the base directory
is touched, as long as no action on variables writes one of the two values.

## Main definitions

* `Store.IsPlaced`: where the two directories are.
* `Moment.Confined`: what is guaranteed at a moment.
* `confinement`: the contract.
* `Contract.Frames`: what holds is kept by what has nothing to do with directories and paths.

## Main results

* `Contract.Frames.command`, `Contract.Frames.display`, …: what actions are made of.
* `Contract.Frames.handing`: so does what hands on a value at most.
-/

namespace WebRecipe

open WebRecipe.Path

variable {σ α : Type}

/-! ### The two directories -/

/-- A directory of a run: its name in the store is one of the two reserved ones. -/
def Key.IsDir (key : String) : Prop :=
  key = Key.baseDir ∨ key = Key.currentDir

instance (key : String) : Decidable (Key.IsDir key) :=
  inferInstanceAs (Decidable (_ ∨ _))

/-- The two directories of a run. -/
structure Dirs where
  base : String
  current : String

/-- The directories are what a store has under their names. -/
structure Dirs.In (d : Dirs) (s : Store) : Prop where
  base : s.get? Key.baseDir = some (.str d.base)
  current : s.get? Key.currentDir = some (.str d.current)

/-- The base directory is directly in the directory of resources, and the current directory is the
base directory or inside it, all of them by names only. -/
structure Dirs.Placed (top : String) (d : Dirs) : Prop where
  root : Plain top
  base : ChildOf top d.base
  current : Inside d.base d.current

theorem Dirs.Placed.plain_base {top : String} {d : Dirs} (h : d.Placed top) : Plain d.base :=
  h.base.plain h.root

/-- What is known while the two directories stay as they are. -/
def Dirs.Held (d : Dirs) (_ : Option String) (w : World σ) : Prop :=
  d.In w.store

/-- A store whose directories are where they should be. -/
def Store.IsPlaced (top : String) (s : Store) : Prop :=
  ∃ d : Dirs, d.In s ∧ d.Placed top

namespace Command

/-- A command writes one of the two directories. -/
def WritesDir : Command → Prop
  | store a => ∃ key, a.written? = some key ∧ Key.IsDir key
  | _ => False

end Command

/-! ### The contract -/

namespace Moment

/-- An action on variables writes one of the two directories. -/
def MisplacesDir (m : Moment σ) : Prop :=
  (∃ name ∈ variableActions, m.author = some name) ∧ m.command.WritesDir

/-- A new base directory was just set, and the current directory is set to it next. -/
structure SetsCurrentToBase (top : String) (m : Moment σ) (dir : String) : Prop where
  author : m.author = some "setBaseDir"
  base : m.world.store.baseDir = some dir
  child : ChildOf top dir
  command : m.command = .store (.put Key.currentDir (.str dir))

/-- What is guaranteed at a moment. The directories are where they should be, but for the moment
at which a new base directory was set and the current directory was not yet. Whatever path is
touched is inside the base directory, but for a base directory that is being made. A directory
that is removed is not the base directory, which stays. -/
structure Confined (s : Surroundings σ) (top : String) (m : Moment σ) : Prop where
  placed : m.world.store.IsPlaced top ∨ ∃ dir, m.SetsCurrentToBase top dir
  touches : ∀ path, m.command.path? = some path →
    (∃ base, m.world.store.baseDir = some base ∧ Inside base path) ∨
      m.author = some "setBaseDir" ∧ m.command = .file (.createDirAll path) ∧ ChildOf top path
  removes : ∀ path, m.command = .file (.removeDirAll path) →
    ∃ base, m.world.store.baseDir = some base ∧ StrictlyInside base path ∧
      (m.after s).files.isDir base = m.world.files.isDir base

/-- No action on variables writes one of the two directories. -/
def SparesDirs (m : Moment σ) : Prop :=
  ¬ m.MisplacesDir

/-- A command that touches no path leaves nothing to say but where the directories are. -/
theorem Confined.of_path?_eq_none {s : Surroundings σ} {top : String} {m : Moment σ}
    (hplaced : m.world.store.IsPlaced top ∨ ∃ dir, m.SetsCurrentToBase top dir)
    (hpath : m.command.path? = none) : m.Confined s top where
  placed := hplaced
  touches path h := by
    rw [hpath] at h
    cases h
  removes path h := by
    rw [h] at hpath
    cases hpath

end Moment

/-- The contract of working inside the base directory, under an assumption. -/
def confinement (s : Surroundings σ) (top : String) (A : Moment σ → Prop) : Contract σ where
  surroundings := s
  assumes := A
  guarantees m := m.Confined s top

/-! ### Frames -/

private theorem isPageView_of_isDir {key : String} (h : Key.IsDir key) :
    Key.isPageView key = false := by
  rcases h with rfl | rfl <;> decide

/-- A command that does not write a directory leaves its value alone. -/
theorem World.get?_answer {s : Surroundings σ} {w : World σ} {c : Command} {key : String}
    (hkey : Key.IsDir key) (hc : ¬ c.WritesDir) :
    (w.answer s c).2.store.get? key = w.store.get? key := by
  refine Command.get?_answer (isPageView_of_isDir hkey) fun h ↦ hc ?_
  cases c with
  | store a => exact ⟨key, h, hkey⟩
  | _ => cases h

/-- A command that does not write a directory leaves both where they are. -/
theorem Dirs.In.answer {s : Surroundings σ} {w : World σ} {c : Command} {d : Dirs}
    (h : d.In w.store) (hc : ¬ c.WritesDir) : d.In (w.answer s c).2.store :=
  ⟨(World.get?_answer (.inl rfl) hc).trans h.base,
    (World.get?_answer (.inr rfl) hc).trans h.current⟩

theorem Dirs.In.baseDir {s : Store} {d : Dirs} (h : d.In s) : s.baseDir = some d.base := by
  rw [Store.baseDir, Store.text?, h.base]
  rfl

theorem Dirs.In.currentDir {s : Store} {d : Dirs} (h : d.In s) :
    s.currentDir = some d.current := by
  rw [Store.currentDir, Store.text?, h.current]
  rfl

/-! ### What actions are made of -/

/-- What holds of the author and the world is kept by every command that neither writes a directory
nor touches a path, and the contract guarantees what it says at such a command. -/
structure Contract.Frames (k : Contract σ) (I : Option String → World σ → Prop) : Prop where
  idle : ∀ {author w c}, I author w → ¬ c.WritesDir → c.path? = none →
    k.guarantees ⟨author, w, c⟩ ∧ I (c.latest author) (w.answer k.surroundings c).2

namespace Contract.Frames

variable {k : Contract σ} {I : Option String → World σ → Prop}

/-- A command that neither writes a directory nor touches a path. -/
theorem preserves (hI : k.Frames I) {c : Command} (hwrites : ¬ c.WritesDir)
    (hpath : c.path? = none) : k.Preserves I (Routine.command c) :=
  .command fun _ _ hw _ ↦ hI.idle hw hwrites hpath

theorem command (hI : k.Frames I) {c : Command} (hwrites : ¬ c.WritesDir) (hpath : c.path? = none) :
    k.Keeps I (Action.command c) (fun _ ↦ True) :=
  .lift (hI.preserves hwrites hpath)

theorem display (hI : k.Frames I) {text : String} :
    k.Keeps I (Action.display text) (fun _ ↦ True) :=
  hI.command not_false rfl

theorem access (hI : k.Frames I) {a : StoreAccess}
    (h : ∀ key, a.written? = some key → ¬ Key.IsDir key) :
    k.Keeps I (Action.access a) (fun _ ↦ True) :=
  hI.command (fun ⟨key, hkey, hdir⟩ ↦ h key hkey hdir) rfl

/-- An access that writes under no name. -/
theorem read (hI : k.Frames I) {a : StoreAccess} (h : a.written? = none) :
    k.Keeps I (Action.access a) (fun _ ↦ True) := by
  refine hI.access fun key hkey ↦ ?_
  rw [h] at hkey
  cases hkey

theorem get (hI : k.Frames I) {key : String} : k.Keeps I (Action.get key) (fun _ ↦ True) :=
  hI.read rfl

theorem put (hI : k.Frames I) {key : String} {v : Json} (h : ¬ Key.IsDir key) :
    k.Keeps I (Action.put key v) (fun _ ↦ True) :=
  hI.access fun _ hkey ↦ by cases hkey; exact h

theorem setInput (hI : k.Frames I) {v : Json} : k.Keeps I (Action.setInput v) (fun _ ↦ True) :=
  hI.put (by decide)

/-- What is done one block deeper keeps what it keeps. -/
theorem indented (hI : k.Frames I) {body : Action α} (h : k.Keeps I body (fun _ ↦ True)) :
    k.Keeps I (Action.indented body) (fun _ ↦ True) := by
  have hindent : ∀ key, some Key.indent = some key → ¬ Key.IsDir key :=
    fun _ hkey ↦ by cases hkey; decide
  refine .bind (hI.access hindent) fun _ _ ↦ ?_
  refine .bind (.lift h.preserves) fun _ _ ↦ ?_
  refine .bind (hI.access hindent) fun _ _ ↦ ?_
  exact .mono .ofExcept fun _ _ ↦ trivial

/-- A call of a page, other than taking a picture. -/
theorem onPage (hI : k.Frames I) {page : PageId} {call : PageCall}
    {toError : PageError → ActionError} (h : (Command.page page call).path? = none) :
    k.Keeps I (Action.onPage page call toError) (fun _ ↦ True) :=
  .bind (hI.command not_false h) fun _ _ ↦ .mono .orFail fun _ _ ↦ trivial

/-- What hands on a value at most neither writes a directory nor touches a path. -/
theorem handing (hI : k.Frames I) {fails : ActionError → Prop} {x : Action α} {post : α → Prop}
    (h : Action.Within k.surroundings (Footprint.Covers .handing) fails x post) :
    k.Keeps I x post := by
  refine Action.Within.keeps h fun c author w hc hw _ ↦ ?_
  have hwrites : ¬ c.WritesDir := by
    cases c with
    | store a =>
      rintro ⟨key, hkey, hdir⟩
      have hinput : key = Key.input := (hc.stores key hkey).2
      rw [hinput] at hdir
      exact absurd hdir (by decide)
    | _ => exact not_false
  exact hI.idle hw hwrites (Option.eq_none_iff_forall_ne_some.2 hc.paths)

end Contract.Frames

variable {s : Surroundings σ} {top : String} {A : Moment σ → Prop}

theorem frames_isPlaced :
    (confinement s top A).Frames (fun _ w ↦ w.store.IsPlaced top) where
  idle := by
    rintro author w c ⟨d, hin, hd⟩ hwrites hpath
    exact ⟨.of_path?_eq_none (.inl ⟨d, hin, hd⟩) hpath, d, hin.answer hwrites, hd⟩

theorem Dirs.Placed.frames {d : Dirs} (hd : d.Placed top) :
    (confinement s top A).Frames d.Held where
  idle hin hwrites hpath := ⟨.of_path?_eq_none (.inl ⟨d, hin, hd⟩) hpath, hin.answer hwrites⟩

end WebRecipe
