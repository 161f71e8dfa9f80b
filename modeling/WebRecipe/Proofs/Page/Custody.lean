import WebRecipe.Proofs.Page.Builtin
import WebRecipe.Proofs.Routine.Log
import WebRecipe.Run.Basic

/-!
# The custody of pages

Whoever is handed a page by the browser, or takes one out of the store, puts it into the store or
closes it with the very next command. So nobody has more than one page in hand, nobody ends with a
page in hand, and nobody takes all pages out of the store.

A page that was handed out is in the store, or in the hand of somebody who is about to put it away,
until it is closed. It gets lost in one way only: another page is put into the store under its
label.

## Main definitions

* `Deed.taken?`, `Deed.Takes`: the page that somebody has in hand after a deed.
* `Routine.Stows`: a routine puts away each page that it takes.
* `Happening`: a command that is carried out in a world.
* `Happening.HandsOut`, `Happening.Closes`, `Happening.Displaces`: what becomes of a page.
* `Custody`: whoever has a page in hand puts it away at once, whatever else happens.

## Main results

* `Engine.performWithin_stows`, `Engine.start_stows`, `Engine.stages_stow`: the built-in actions,
  and all parts of a run that are made of them, put away each page.
* `Routine.Stows.goes`: what is in hand after a log.
* `Custody.traced`: a page that is in custody is closed, displaced, or still in custody.
* `Custody.handedOut`: so is a page that was handed out meanwhile.
-/

namespace WebRecipe

variable {σ α β : Type}

namespace Deed

/-- The page that somebody has in hand after a deed: the one that was opened, or taken out of the
store. -/
def taken? : Deed → Option PageId
  | ⟨.openPage, .ok p⟩ => some p
  | ⟨.store (.removePage _), reply⟩ => reply
  | _ => none

/-- Somebody has a page in hand after a deed. -/
def Takes (d : Deed) : Prop :=
  ∃ p, d.taken? = some p

end Deed

/-- A command that puts a page into the store, or closes it. -/
inductive Command.PutsAway (p : PageId) : Command → Prop
  | insert (label : String) : PutsAway p (.store (.insertPage label p))
  | close : PutsAway p (.closePage p)

/-- A routine that begins with a page in hand, if there is one, puts it away with its first command,
and so it does with each page that it takes. It never takes all pages out of the store. -/
def Routine.Stows (s : Surroundings σ) (hand : Option PageId) : Routine α → Prop
  | .done _ => hand = none
  | .unfinished => hand = none
  | .step c next =>
    (∀ p ∈ hand, c.PutsAway p) ∧ c ≠ .store .takePages ∧
      ∀ w : World σ, Stows s (Deed.taken? ⟨c, (w.answer s c).1⟩) (next (w.answer s c).1)

/-- The page in hand after a log. -/
def Log.hand (l : Log) : Option PageId :=
  l.getLast?.bind Deed.taken?

namespace Routine.Stows

variable {s : Surroundings σ} {hand : Option PageId}

theorem bind {r : Routine α} {f : α → Routine β} (h : r.Stows s hand)
    (hf : ∀ a, (f a).Stows s none) : (r >>= f).Stows s hand := by
  induction r generalizing hand with
  | done a =>
    rw [show hand = none from h]
    exact hf a
  | unfinished => exact h
  | step c next ih => exact ⟨h.1, h.2.1, fun w ↦ ih _ (h.2.2 w)⟩

/-- Two actions in a row. -/
theorem run_bind {x : Action α} {f : α → Action β} (h : x.run.Stows s hand)
    (hf : ∀ a, (f a).run.Stows s none) : (x >>= f).run.Stows s hand := by
  rw [ExceptT.run_bind]
  refine h.bind fun r ↦ ?_
  cases r with
  | ok a => exact hf a
  | error e => rfl

/-- A command that takes no page. -/
theorem command {c : Command} (hall : c ≠ .store .takePages)
    (htaken : ∀ reply, Deed.taken? ⟨c, reply⟩ = none) : (Action.command c).run.Stows s none :=
  ⟨nofun, hall, fun w ↦ htaken (w.answer s c).1⟩

private theorem goes_from {r r' : Routine α} {log : Log} (h : r.Stows s hand)
    (hgoes : r.Goes log r') (hlog : ∀ d ∈ log, d.AnsweredIn s) :
    r'.Stows s ((log.getLast?.map Deed.taken?).getD hand) := by
  induction hgoes generalizing hand with
  | refl r => exact h
  | @step c next reply log r _ ih =>
    obtain ⟨⟨w, hreply⟩, hlater⟩ := List.forall_mem_cons.1 hlog
    have hnext := h.2.2 w
    dsimp only at hreply
    rw [← hreply] at hnext
    have hrest := ih hnext hlater
    cases log with
    | nil => exact hrest
    | cons d log => exact hrest

/-- A routine has in hand after a log what it has taken last. -/
theorem goes {r r' : Routine α} {log : Log} (h : r.Stows s none) (hgoes : r.Goes log r')
    (hlog : ∀ d ∈ log, d.AnsweredIn s) : r'.Stows s log.hand := by
  have hend := h.goes_from hgoes hlog
  rw [Log.hand]
  cases hlast : log.getLast? with
  | none => rwa [hlast] at hend
  | some d => rwa [hlast] at hend

end Routine.Stows

/-- What keeps to a page puts away each page, apart from its parts. -/
theorem Routine.MadeOf.stows {s : Surroundings σ} {page : Option PageId}
    {part : Action Unit → Prop} {post : α → Prop} {r : Routine α}
    (h : r.MadeOf s (Command.OnPage page) part post) (hpart : ∀ x, part x → x.run.Stows s none) :
    r.Stows s none := by
  induction h with
  | done => rfl
  | unfinished => rfl
  | @step c next hc _ ih =>
    refine ⟨nofun, ?_, fun w ↦ ?_⟩
    · rintro rfl
      cases hc
    · have htaken (reply : c.Reply) : Deed.taken? ⟨c, reply⟩ = none := by
        cases c with
        | store a => cases a <;> first | rfl | cases hc
        | openPage => exact hc.elim
        | _ => rfl
      rw [htaken]
      exact ih w
  | part hx _ ih => exact (hpart _ hx).bind ih

/-! ### Actions on the table of pages -/

namespace Action

variable {s : Surroundings σ}

private theorem newPage_stows (cx : Context) (ps : Members) : (newPage cx ps).run.Stows s none := by
  refine .run_bind rfl fun key ↦ ?_
  refine ⟨nofun, nofun, fun w ↦ ?_⟩
  generalize (w.answer s .openPage).1 = reply
  cases reply with
  | error e => rfl
  | ok page =>
    refine ⟨fun p hp ↦ ?_, nofun, fun _ ↦ ?_⟩
    · cases hp
      exact .insert key
    · exact .command nofun fun _ ↦ rfl

private theorem closePage_stows (cx : Context) (ps : Members) :
    (closePage cx ps).run.Stows s none := by
  refine .run_bind rfl fun key ↦ ?_
  refine ⟨nofun, nofun, fun w ↦ ?_⟩
  generalize (w.answer s (.store (.removePage key))).1 = reply
  match reply with
  | none => exact .command nofun fun _ ↦ rfl
  | some page =>
    refine ⟨fun p hp ↦ ?_, nofun, fun w ↦ ?_⟩
    · cases hp
      exact .close
    · exact .run_bind rfl fun _ ↦ .command nofun fun _ ↦ rfl

private theorem switchPage_stows (cx : Context) (ps : Members) :
    (switchPage cx ps).run.Stows s none := by
  refine .run_bind rfl fun key ↦ ?_
  refine .run_bind (.command nofun fun _ ↦ rfl) fun found ↦ ?_
  match found with
  | none => exact .command nofun fun _ ↦ rfl
  | some page =>
    refine .run_bind (.run_bind (.command nofun fun _ ↦ rfl) fun _ ↦ rfl) fun _ ↦ ?_
    exact .run_bind (.command nofun fun _ ↦ rfl) fun _ ↦ .command nofun fun _ ↦ rfl

end Action

/-! ### Performing actions -/

namespace Engine

variable {e : Engine} {s : Surroundings σ}

/-- The preparation of an action takes no page. -/
private theorem prepare_bind_stows {call : ActionCall} {f : Prepared → Action β}
    (hf : ∀ handler params page, e.registry.get? call.name = some handler →
      (f ⟨handler, params, page⟩).run.Stows s none) :
    (e.prepare call >>= f).run.Stows s none := by
  rw [prepare_bind]
  refine .run_bind (.command nofun fun _ ↦ rfl) fun _ ↦ ?_
  refine .run_bind (.command nofun fun _ ↦ rfl) fun _ ↦ ?_
  refine .run_bind (.command nofun fun _ ↦ rfl) fun resolved ↦ ?_
  refine .run_bind (.command nofun fun _ ↦ rfl) fun _ ↦ ?_
  refine .run_bind rfl fun params ↦ ?_
  refine .run_bind (.command nofun fun _ ↦ rfl) fun _ ↦ ?_
  cases hhandler : e.registry.get? call.name with
  | none => rfl
  | some handler =>
    exact .run_bind (.command nofun fun _ ↦ rfl) fun page ↦ hf handler params page hhandler

variable (hreg : e.registry = Action.builtinRegistry)

include hreg

/-- A handler puts away each page if what it performs does. -/
private theorem handler_stows {name : String} {h : Handler} (hget : e.registry.get? name = some h)
    {cx : Context} (hperform : ∀ call, (cx.perform call).run.Stows s none) (ps : Members) :
    (h cx ps).run.Stows s none := by
  have hperformed {calls : ActionCall → Prop} (hh : h.Performing calls) :
      (h cx ps).run.Stows s none := by
    refine (hh s cx ps).routine.stows ?_
    rintro x ⟨call, -, rfl⟩
    exact hperform call
  cases Action.pageUse_of_get? hreg hget with
  | alone keeps => exact hperformed (keeps.performing fun _ ↦ True)
  | block _ performing => exact hperformed performing
  | callMethod => exact hperformed Action.callMethod_steering.performing
  | login => exact hperformed Action.login_steering.performing
  | newPage => exact Action.newPage_stows cx ps
  | closePage => exact Action.closePage_stows cx ps
  | switchPage => exact Action.switchPage_stows cx ps

/-- Performing an action puts away each page. -/
theorem performWithin_stows (depth : Nat) (call : ActionCall) :
    (e.performWithin depth call).run.Stows s none := by
  induction depth generalizing call with
  | zero => rfl
  | succ depth ih =>
    refine prepare_bind_stows fun handler params page hget ↦ ?_
    exact handler_stows hreg hget ih params

/-- An action that was prepared puts away each page. -/
theorem start_stows {call : ActionCall} {p : Prepared}
    (hget : e.registry.get? call.name = some p.handler) : (e.start p).run.Stows s none :=
  handler_stows hreg hget (e.performWithin_stows hreg e.depth) p.params

/-- Every stage of a run puts away each page. -/
theorem stages_stow {recipes : List Recipe} {selection : Option String} {stage : Stage}
    (h : stage ∈ e.stages recipes selection) : stage.run.Stows s none := by
  obtain ⟨r, -, hstage⟩ := List.mem_flatMap.1 h
  rcases List.mem_cons.1 hstage with rfl | hstage
  · refine .run_bind (.command nofun fun _ ↦ rfl) fun _ ↦ ?_
    refine .run_bind (.command nofun fun _ ↦ rfl) fun _ ↦ ?_
    refine .run_bind (performWithin_stows hreg _ _) fun _ ↦ ?_
    exact .run_bind (performWithin_stows hreg _ _) fun _ ↦ rfl
  · obtain ⟨call, -, rfl⟩ := List.mem_map.1 hstage
    rw [stageOf]
    split
    · exact .run_bind (performWithin_stows hreg _ _) fun _ ↦ rfl
    · exact prepare_bind_stows fun _ _ _ _ ↦ rfl

end Engine
end WebRecipe

namespace WebRecipe

variable {σ : Type}

/-! ### The table of pages -/

namespace Store

/-- The page is under some label. -/
def Holds (st : Store) (p : PageId) : Prop :=
  ∃ label, st.page? label = some p

private theorem lookup_insertSorted_self (label : String) (p : PageId)
    (pages : List (String × PageId)) : (insertSorted label p pages).lookup label = some p := by
  induction pages with
  | nil => exact List.lookup_cons_self
  | cons entry pages ih =>
    obtain ⟨l, q⟩ := entry
    rw [insertSorted]
    split
    · exact List.lookup_cons_self
    · split
      · exact List.lookup_cons_self
      case isFalse hl =>
        rw [List.lookup_cons, beq_eq_false_iff_ne.2 (Ne.symm hl)]
        exact ih

private theorem lookup_insertSorted_of_ne {label other : String} (h : other ≠ label) (p : PageId)
    (pages : List (String × PageId)) :
    (insertSorted label p pages).lookup other = pages.lookup other := by
  have hother : (other == label) = false := beq_eq_false_iff_ne.2 h
  induction pages with
  | nil => rw [insertSorted, List.lookup_cons, hother]
  | cons entry pages ih =>
    obtain ⟨l, q⟩ := entry
    rw [insertSorted]
    split
    · rw [List.lookup_cons, hother]
    · split
      case isTrue hl => rw [hl, List.lookup_cons, List.lookup_cons, hother]
      case isFalse => rw [List.lookup_cons, List.lookup_cons, ih]

/-- A page that is put under a label is found there. -/
theorem page?_insertPage_self (st : Store) (label : String) (p : PageId) :
    (st.insertPage label p).page? label = some p :=
  lookup_insertSorted_self label p st.pages

/-- A page that is put under a label leaves alone what is under all others. -/
theorem page?_insertPage_of_ne {label other : String} (h : other ≠ label) (st : Store)
    (p : PageId) : (st.insertPage label p).page? other = st.page? other :=
  lookup_insertSorted_of_ne h p st.pages

/-- Removing a page leaves alone what is under all other labels. -/
theorem page?_removePage_of_ne {label other : String} (h : other ≠ label) (st : Store) :
    (st.removePage label).2.page? other = st.page? other := by
  rw [removePage]
  split
  · rfl
  · rw [page?, page?]
    induction st.pages with
    | nil => rfl
    | cons entry pages ih =>
      obtain ⟨l, q⟩ := entry
      rw [List.filter_cons]
      split
      · rw [List.lookup_cons, List.lookup_cons, ih]
      case isFalse hl =>
        have hother : (other == l) = false := by
          rw [beq_eq_false_iff_ne]
          rintro rfl
          exact hl (bne_iff_ne.2 h)
        rw [List.lookup_cons, hother]
        exact ih

end Store

/-- An access that puts no page into the store, and takes none out of it, leaves alone which pages
are there. -/
theorem StoreAccess.pages_answer {a : StoreAccess} (hinsert : ∀ label p, a ≠ .insertPage label p)
    (hremove : ∀ label, a ≠ .removePage label) (htake : a ≠ .takePages) (st : Store) :
    (a.answer st).2.pages = st.pages := by
  cases a with
  | insertPage label p => exact absurd rfl (hinsert label p)
  | removePage label => exact absurd rfl (hremove label)
  | takePages => exact absurd rfl htake
  | put key v => exact Store.pages_put st key v
  | setIndent n => exact Store.pages_put st _ _
  | indentIn => exact Store.pages_put st _ _
  | indentOut => exact Store.pages_put st _ _
  | activatePage label =>
    rw [answer, Store.activatePage]
    split <;> rfl
  | _ => rfl

/-! ### Happenings -/

/-- A command that is carried out in a world. -/
structure Happening (σ : Type) where
  world : World σ
  command : Command

namespace Happening

/-- The command together with the reply of the world. -/
def deed (s : Surroundings σ) (x : Happening σ) : Deed :=
  ⟨x.command, (x.world.answer s x.command).1⟩

/-- The world after it. -/
def after (s : Surroundings σ) (x : Happening σ) : World σ :=
  (x.world.answer s x.command).2

/-- A page is handed out. -/
def HandsOut (s : Surroundings σ) (x : Happening σ) (p : PageId) : Prop :=
  x.deed s = ⟨.openPage, .ok p⟩

/-- A page is closed. -/
def Closes (s : Surroundings σ) (x : Happening σ) (p : PageId) : Prop :=
  x.deed s = ⟨.closePage p, .ok ()⟩

/-- Another page is put into the store under the label of a page. -/
def Displaces (x : Happening σ) (p : PageId) : Prop :=
  ∃ label q, x.command = .store (.insertPage label q) ∧ q ≠ p ∧
    x.world.store.page? label = some p

variable {s : Surroundings σ}

theorem closes_of_command {x : Happening σ} {p : PageId} (h : x.command = .closePage p)
    (hclose : ∀ p r, (s.closePage p r).1 = .ok ()) : x.Closes s p := by
  obtain ⟨w, c⟩ := x
  cases h
  rw [Closes, deed]
  exact congrArg (Deed.mk (.closePage p)) (hclose p w.rest)

/-- What becomes of a page that is in the store: it stays there, is taken out of it, or gives way to
another one. -/
theorem becomes_of_holds {x : Happening σ} {p : PageId} (hall : x.command ≠ .store .takePages)
    (h : x.world.store.Holds p) :
    x.Displaces p ∨ (x.deed s).taken? = some p ∨ (x.after s).store.Holds p := by
  obtain ⟨w, c⟩ := x
  obtain ⟨label, hlabel⟩ := h
  cases c with
  | store a =>
    by_cases hinsert : ∃ other q, a = .insertPage other q
    · obtain ⟨other, q, rfl⟩ := hinsert
      by_cases hother : label = other
      · subst hother
        by_cases hq : q = p
        · subst hq
          exact .inr (.inr ⟨label, Store.page?_insertPage_self _ label q⟩)
        · exact .inl ⟨label, q, rfl, hq, hlabel⟩
      · exact .inr (.inr ⟨label, (Store.page?_insertPage_of_ne hother _ q).trans hlabel⟩)
    · by_cases hremove : ∃ other, a = .removePage other
      · obtain ⟨other, rfl⟩ := hremove
        by_cases hother : label = other
        · subst hother
          refine .inr (.inl ?_)
          change (w.store.removePage label).1 = some p
          rw [Store.removePage, show w.store.page? label = some p from hlabel]
        · exact .inr (.inr ⟨label, (Store.page?_removePage_of_ne hother _).trans hlabel⟩)
      · have hpages : (a.answer w.store).2.pages = w.store.pages :=
          StoreAccess.pages_answer (fun other q ha ↦ hinsert ⟨other, q, ha⟩)
            (fun other ha ↦ hremove ⟨other, ha⟩) (fun ha ↦ hall (congrArg Command.store ha)) _
        exact .inr (.inr ⟨label, (congrArg (List.lookup label) hpages).trans hlabel⟩)
  | _ => exact .inr (.inr ⟨label, hlabel⟩)

end Happening

/-! ### Custody -/

/-- What happens one after another, from a page in hand, if there is one, and a store, to another
one in hand and another store. Whoever has a page in hand puts it away at once, and nobody takes all
pages out of the store. -/
inductive Custody (s : Surroundings σ) :
    Option PageId → Store → List (Happening σ) → Option PageId → Store → Prop
  | nil {hand : Option PageId} {st : Store} : Custody s hand st [] hand st
  | cons {hand hand' : Option PageId} {x : Happening σ} {xs : List (Happening σ)} {st' : Store}
      (puts : ∀ p ∈ hand, x.command.PutsAway p) (all : x.command ≠ .store .takePages)
      (later : Custody s (x.deed s).taken? (x.after s).store xs hand' st') :
      Custody s hand x.world.store (x :: xs) hand' st'

namespace Custody

variable {s : Surroundings σ} {hand hand' hand'' : Option PageId} {st st' st'' : Store}
  {xs ys : List (Happening σ)} {p : PageId}

theorem append (h : Custody s hand st xs hand' st') (h' : Custody s hand' st' ys hand'' st'') :
    Custody s hand st (xs ++ ys) hand'' st'' := by
  induction h with
  | nil => exact h'
  | cons puts all _ ih => exact .cons puts all (ih h')

theorem concat {x : Happening σ} (h : Custody s hand st xs hand' x.world.store)
    (puts : ∀ p ∈ hand', x.command.PutsAway p) (all : x.command ≠ .store .takePages) :
    Custody s hand st (xs ++ [x]) (x.deed s).taken? (x.after s).store :=
  h.append (.cons puts all .nil)

/-- What happens one after another can be taken apart. -/
theorem split (h : Custody s hand st (xs ++ ys) hand'' st'') :
    ∃ hand' st', Custody s hand st xs hand' st' ∧ Custody s hand' st' ys hand'' st'' := by
  induction xs generalizing hand st with
  | nil => exact ⟨hand, st, .nil, h⟩
  | cons x xs ih =>
    cases h with
    | cons puts all later =>
      obtain ⟨hand', st', hfirst, hlast⟩ := ih later
      exact ⟨hand', st', .cons puts all hfirst, hlast⟩

variable (hclose : ∀ p r, (s.closePage p r).1 = .ok ())

include hclose

/-- A page that is in hand or in the store is closed, or displaced, or it is still there. -/
theorem traced (h : Custody s hand st xs hand' st') (hp : hand = some p ∨ st.Holds p) :
    (∃ y ∈ xs, y.Closes s p ∨ y.Displaces p) ∨ hand' = some p ∨ st'.Holds p := by
  induction h with
  | nil => exact .inr hp
  | @cons hand hand' x xs st' puts all _ ih =>
    have hstep : (x.Closes s p ∨ x.Displaces p) ∨
        (x.deed s).taken? = some p ∨ (x.after s).store.Holds p := by
      rcases hp with hhand | hholds
      · have hputs : x.command.PutsAway p := puts p hhand
        obtain ⟨w, c⟩ := x
        cases hputs with
        | insert label => exact .inr (.inr ⟨label, Store.page?_insertPage_self _ label p⟩)
        | close => exact .inl (.inl (Happening.closes_of_command rfl hclose))
      · exact (Happening.becomes_of_holds all hholds).imp_left .inr
    rcases hstep with hnow | hlater
    · exact .inl ⟨x, List.mem_cons_self, hnow⟩
    · exact (ih hlater).imp_left fun ⟨y, hy, hends⟩ ↦ ⟨y, List.mem_cons_of_mem x hy, hends⟩

/-- A page that is handed out is closed later, or displaced, or it is still in hand or in the
store. -/
theorem handedOut {before later : List (Happening σ)} {x : Happening σ}
    (h : Custody s hand st (before ++ x :: later) hand' st') (hx : x.HandsOut s p) :
    (∃ y ∈ later, y.Closes s p ∨ y.Displaces p) ∨ hand' = some p ∨ st'.Holds p := by
  obtain ⟨_, _, -, hrest⟩ := h.split
  cases hrest with
  | cons _ _ hlater =>
    refine hlater.traced hclose (.inl ?_)
    rw [show x.deed s = ⟨.openPage, .ok p⟩ from hx]
    rfl

end Custody
end WebRecipe
