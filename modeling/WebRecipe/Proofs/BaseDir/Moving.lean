import WebRecipe.Proofs.BaseDir.Files

/-!
# Changing the directories

The actions that change the current directory find a path inside the base directory and put it
into the store as the last thing that they do. Setting the base directory makes a directory with a
name of its own directly in the directory of resources, and then puts it under both names. An
action that fails has changed neither.

## Main definitions

* `Contract.Moves`: an action that changes the current directory as the last thing that it does.
* `Action.Moved`: how an action leaves the directories that changes them.

## Main results

* `Action.setCurrentDir_moves`, `Action.resetCurrentDir_moves`, `Action.backToParentDir_moves`.
* `Action.setCurrentDir_moved`, `Action.resetCurrentDir_moved`, `Action.backToParentDir_moved`,
  `Action.setBaseDir_moved`.
* `Action.setBaseDir_places`: setting the base directory places the directories, wherever they were.
-/

namespace WebRecipe

open WebRecipe.Path

variable {σ α : Type}

/-! ### Changing the current directory -/

/-- An action that changes the current directory: what holds is kept until a directory that is
wanted is put into the store, as the last thing that is done. -/
structure Contract.Moves (k : Contract σ) (I : Option String → World σ → Prop)
    (wanted : String → Prop) (x : Action Unit) : Prop where
  ensures : ∀ {post : Except ActionError Unit → Option String → World σ → Prop} {author w},
    I author w →
    (∀ target author w, wanted target → I author w →
      k.Ensures post author w (Action.put Key.currentDir (.str target)).run) →
    (∀ e author w, I author w → post (.error e) author w) → k.Ensures post author w x.run

namespace Contract.Moves

variable {k : Contract σ} {I : Option String → World σ → Prop} {wanted : String → Prop}

theorem put {target : String} (h : wanted target) :
    k.Moves I wanted (Action.put Key.currentDir (.str target)) where
  ensures hI hput _ := hput target _ _ h hI

theorem bind {x : Action α} {mid : α → Prop} {f : α → Action Unit} (h : k.Keeps I x mid)
    (hf : ∀ a, mid a → k.Moves I wanted (f a)) : k.Moves I wanted (x >>= f) where
  ensures hI hput hfail :=
    h.ensures_bind hI (fun a _ _ ha hI ↦ (hf a ha).ensures hI hput hfail) hfail

theorem throw {e : ActionError} : k.Moves I wanted (MonadExcept.throw e) where
  ensures hI _ hfail := hfail e _ _ hI

end Contract.Moves

namespace Action

section Moving

variable {k : Contract σ} {base : String} {admits : String → Prop}
  {I : Option String → World σ → Prop}

theorem setCurrentDir_moves (hk : k.Confines "setCurrentDir" base admits I) (cx : Context)
    (ps : Members) :
    k.Moves I (Inside base) (setCurrentDir cx ps) := by
  refine .bind .ofExcept fun dir _ ↦ ?_
  refine .bind (startDir_keeps hk) fun start _ ↦ ?_
  refine .bind (confined_keeps hk) fun target htarget ↦ ?_
  refine .bind (tryFile_keeps hk htarget (.inl rfl)) fun reply _ ↦ ?_
  split
  · exact .bind hk.frames.display fun _ _ ↦ .put htarget
  · exact .throw

theorem resetCurrentDir_moves (hk : k.Confines "resetCurrentDir" base admits I) (cx : Context)
    (ps : Members) :
    k.Moves I (· = base) (resetCurrentDir cx ps) :=
  .bind (baseDir_keeps hk) fun _ hbase ↦ .put hbase

theorem backToParentDir_moves (hk : k.Confines "backToParentDir" base admits I) (cx : Context)
    (ps : Members) :
    k.Moves I (fun target ↦ ∃ author w, I author w ∧
      target = parentWithin base (w.store.currentDir.getD base)) (backToParentDir cx ps) := by
  refine .bind (baseDir_keeps hk) fun base' hbase ↦ ?_
  refine .bind (currentDir_keeps hk) fun current ⟨author, w, hw, hcurrent⟩ ↦ ?_
  subst hbase hcurrent
  exact .put ⟨author, w, hw, rfl⟩

end Moving

/-- How a handler leaves the directories that moves them: where they should be, and as they were
when it fails. -/
def Moved (top : String) (d : Dirs) (r : Except ActionError Unit) (_ : Option String)
    (w : World σ) : Prop :=
  w.store.IsPlaced top ∧ ∀ e, r = .error e → d.In w.store

section Moved

variable {s : Surroundings σ} {top : String} {A : Moment σ → Prop} {d : Dirs}
  {author : Option String} {w : World σ}

/-- A handler that succeeds must leave the directories where they should be. -/
theorem Moved.ok (h : w.store.IsPlaced top) : Moved top d (.ok ()) author w := by
  refine ⟨h, fun e he ↦ ?_⟩
  cases he

/-- A handler may leave the directories as they are. -/
theorem Moved.unchanged {r : Except ActionError Unit} (hd : d.Placed top) (hin : d.In w.store) :
    Moved top d r author w :=
  ⟨⟨d, hin, hd⟩, fun _ _ ↦ hin⟩

/-- An action may move to directories inside the base directory. -/
private theorem moved_of_moves (hd : d.Placed top) {wanted : String → Prop} {x : Action Unit}
    (h : (confinement s top A).Moves d.Held wanted x)
    (hwanted : ∀ target, wanted target → Inside d.base target) (hin : d.In w.store) :
    (confinement s top A).Ensures (Moved top d) author w x.run := by
  refine h.ensures hin (fun target author w htarget hin _ ↦ ?_) fun _ _ _ hin ↦ .unchanged hd hin
  refine ⟨.of_path?_eq_none (.inl ⟨d, hin, hd⟩) rfl, .ok ⟨⟨d.base, target⟩, ⟨?_, ?_⟩, ?_⟩⟩
  · exact (Store.get?_put_of_ne (by decide) (by decide)).trans hin.base
  · exact Store.get?_put_self (by decide) _
  · exact ⟨hd.root, hd.base, hwanted target htarget⟩

theorem setCurrentDir_moved (hd : d.Placed top) (cx : Context) (ps : Members)
    (hin : d.In w.store) :
    (confinement s top A).Ensures (Moved top d) author w (setCurrentDir cx ps).run :=
  moved_of_moves hd (setCurrentDir_moves (hd.confines _) cx ps)
    (fun _ h ↦ h) hin

theorem resetCurrentDir_moved (hd : d.Placed top) (cx : Context) (ps : Members)
    (hin : d.In w.store) :
    (confinement s top A).Ensures (Moved top d) author w (resetCurrentDir cx ps).run :=
  moved_of_moves hd (resetCurrentDir_moves (hd.confines _) cx ps) (fun _ h ↦ h ▸ .refl d.base) hin

theorem backToParentDir_moved (hd : d.Placed top) (cx : Context) (ps : Members)
    (hin : d.In w.store) :
    (confinement s top A).Ensures (Moved top d) author w (backToParentDir cx ps).run := by
  refine moved_of_moves hd (backToParentDir_moves (hd.confines _) cx ps) ?_ hin
  rintro target ⟨author, w, hin, rfl⟩
  rw [Dirs.In.currentDir hin]
  exact inside_parentWithin hd.plain_base hd.current

end Moved

/-! ### Setting the base directory -/

/-- What setting the base directory does: it makes a directory, and puts it under both names. -/
private theorem setBaseDir_ensures {k : Contract σ} {cx : Context} {ps : Members}
    {author : Option String} {w : World σ} {top : String}
    {post : Except ActionError Unit → Option String → World σ → Prop}
    (htop : Path.absolute cx.settings.workingDir cx.settings.resourcesDir = top)
    (hmake : ∀ base (w' : World σ), ChildOf top base → w'.store = w.store →
      k.guarantees ⟨author, w', .file (.createDirAll base)⟩)
    (hbase : ∀ base (w' : World σ), ChildOf top base → w'.store = w.store →
      k.guarantees ⟨author, w', .store (.put Key.baseDir (.str base))⟩)
    (hcurrent : ∀ base (w' : World σ), ChildOf top base →
      w'.store = w.store.put Key.baseDir (.str base) →
      k.guarantees ⟨author, w', .store (.put Key.currentDir (.str base))⟩)
    (herror : ∀ e (w' : World σ), w'.store = w.store → post (.error e) author w')
    (hok : ∀ base (w' : World σ), ChildOf top base →
      w'.store = (w.store.put Key.baseDir (.str base)).put Key.currentDir (.str base) →
      post (.ok ()) author w') :
    k.Ensures post author w (setBaseDir cx ps).run := by
  -- up to the moment at which the directory is there, the store is what it was
  let I : Option String → World σ → Prop := fun a w' ↦ a = author ∧ w'.store = w.store
  have hfail : ∀ e a w', I a w' → post (.error e) a w' := by
    rintro e a w' ⟨rfl, hstore⟩
    exact herror e w' hstore
  have hI : I author w := ⟨rfl, rfl⟩
  refine Contract.Keeps.ensures_bind .ofExcept hI (fun dir a w' _ hI ↦ ?_) hfail
  rw [htop]
  split
  case h_1 => exact hfail _ a w' hI
  case h_2 base hchild =>
    have hbase' := child?_spec hchild
    have htry : k.Keeps I (tryFile (.createDirAll base)) (fun _ ↦ True) := by
      refine .command fun a w' hI _ ↦ ⟨?_, hI, trivial⟩
      obtain ⟨rfl, hstore⟩ := hI
      exact hmake base w' hbase' hstore
    have hfile : k.Keeps I (file "setBaseDir" "mkdir" (.createDirAll base)) (fun _ ↦ True) :=
      htry.bind fun _ _ ↦ .mono .orFail fun _ _ ↦ trivial
    refine hfile.ensures_bind hI (fun _ a w' _ hI ↦ ?_) hfail
    obtain ⟨rfl, hstore⟩ := hI
    refine fun _ ↦ ⟨hbase base w' hbase' hstore, fun _ ↦ ⟨hcurrent base _ hbase' ?_, ?_⟩⟩
    · exact congrArg (Store.put · Key.baseDir (.str base)) hstore
    · refine hok base _ hbase' ?_
      exact congrArg (fun s ↦ (Store.put s Key.baseDir (.str base)).put Key.currentDir (.str base))
        hstore

private theorem in_setBaseDir (s : Store) (base : String) :
    Dirs.In ⟨base, base⟩ ((s.put Key.baseDir (.str base)).put Key.currentDir (.str base)) where
  base := (Store.get?_put_of_ne (by decide) (by decide)).trans (Store.get?_put_self (by decide) _)
  current := Store.get?_put_self (by decide) _

/-- Setting the base directory of a run that has one. -/
theorem setBaseDir_moved {s : Surroundings σ} {top : String} {A : Moment σ → Prop} {d : Dirs}
    {w : World σ} (hd : d.Placed top) (cx : Context)
    (htop : Path.absolute cx.settings.workingDir cx.settings.resourcesDir = top) (ps : Members)
    (hin : d.In w.store) :
    (confinement s top A).Ensures (Moved top d) (some "setBaseDir") w (setBaseDir cx ps).run := by
  refine setBaseDir_ensures htop ?_ ?_ ?_ ?_ ?_
  · intro base w' hbase hstore
    refine ⟨.inl ⟨d, hstore ▸ hin, hd⟩, ?_, ?_⟩
    · rintro path ⟨⟩
      exact .inr ⟨rfl, rfl, hbase⟩
    · rintro path ⟨⟩
  · intro base w' hbase hstore
    exact .of_path?_eq_none (.inl ⟨d, hstore ▸ hin, hd⟩) rfl
  · intro base w' hbase hstore
    refine .of_path?_eq_none (.inr ⟨base, rfl, ?_, hbase, rfl⟩) rfl
    show w'.store.baseDir = some base
    rw [Store.baseDir, Store.text?, hstore, Store.get?_put_self (by decide)]
    rfl
  · intro e w' hstore
    exact .unchanged hd (hstore ▸ hin)
  · intro base w' hbase hstore
    refine .ok ⟨⟨base, base⟩, ?_, hd.root, hbase, .refl base⟩
    rw [hstore]
    exact in_setBaseDir w.store base

/-- Setting the base directory puts the directories where they should be, wherever they were. -/
theorem setBaseDir_places {s : Surroundings σ} {top : String} {w : World σ}
    {author : Option String} (hplain : Plain top) (cx : Context)
    (htop : Path.absolute cx.settings.workingDir cx.settings.resourcesDir = top) (ps : Members) :
    (Contract.mk s (fun _ ↦ True) (fun _ ↦ True)).Ensures
      (fun r _ w ↦ r = .ok () → w.store.IsPlaced top) author w (setBaseDir cx ps).run := by
  refine setBaseDir_ensures htop (fun _ _ _ _ ↦ trivial) (fun _ _ _ _ ↦ trivial)
    (fun _ _ _ _ ↦ trivial) ?_ ?_
  · intro e w' hstore he
    cases he
  · intro base w' hbase hstore _
    refine ⟨⟨base, base⟩, ?_, hplain, hbase, .refl base⟩
    rw [hstore]
    exact in_setBaseDir w.store base

end Action
end WebRecipe
