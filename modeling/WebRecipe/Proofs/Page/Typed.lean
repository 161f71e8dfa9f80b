import Mathlib.Data.List.Forall2
import WebRecipe.Proofs.Routine.Alike
import WebRecipe.Rehearsal

/-!
# Pages that differ in what was typed

Two scripted pages that are the same, but for typed texts among their events, answer all calls alike
and differ in no other way afterwards: no answer tells what was typed. The same is true of rehearsals
with such pages.

## Main definitions

* `TypedAlike`, `ScriptedPage.Alike`, `Rehearsal.Alike`: events, pages and rehearsals that differ in
  what was typed.

## Main results

* `ScriptedPage.Alike.call`, `ScriptedPage.Alike.typeText`: what such pages answer.
* `Rehearsal.hides`: a rehearsal does not tell two typed texts apart.
-/

namespace WebRecipe

/-- Two events are the same, or a text was typed into an element in the one and another text into the
same element in the other. -/
inductive TypedAlike (a b : String) : String → String → Prop
  | same (event : String) : TypedAlike a b event event
  | typed (selector : String) :
      TypedAlike a b ("type " ++ selector ++ " " ++ a) ("type " ++ selector ++ " " ++ b)

/-! ### Scripted pages -/

/-- Two pages are the same, but for typed texts in their events. -/
structure ScriptedPage.Alike (a b : String) (p p' : ScriptedPage) : Prop where
  same : p' = { p with events := p'.events }
  events : List.Forall₂ (TypedAlike a b) p.events.toList p'.events.toList

namespace ScriptedPage.Alike

variable {a b : String} {p p' : ScriptedPage}

theorem refl (p : ScriptedPage) : p.Alike a b p :=
  ⟨rfl, List.forall₂_same.2 fun event _ ↦ .same event⟩

/-- The same elements are found on both pages. -/
private theorem find_eq (h : p.Alike a b p') (selector : String) :
    p'.find selector = p.find selector := by
  rw [h.same]
  rfl

/-- Two pages that are changed in the same way, but not in their events. -/
private theorem change {f : ScriptedPage → ScriptedPage}
    (hf : ∀ q events, f { q with events := events } = { f q with events := events })
    (hevents : ∀ q, (f q).events = q.events) (h : p.Alike a b p') : (f p).Alike a b (f p') := by
  obtain ⟨hsame, hforall⟩ := h
  refine ⟨?_, by rwa [hevents, hevents]⟩
  rw [hevents, ← hf, ← hsame]

/-- An operation fails alike, or else leaves an event. -/
private theorem operate {event event' : String} (h : p.Alike a b p') (operation : String)
    (hevent : TypedAlike a b event event') : ∃ o q q', p.operate operation event = (o, q) ∧
      p'.operate operation event' = (o, q') ∧ q.Alike a b q' := by
  obtain ⟨hsame, hevents⟩ := h
  have hfailures : p'.failures = p.failures := by rw [hsame]
  rw [ScriptedPage.operate, ScriptedPage.operate, hfailures]
  cases takeFailure operation p.failures with
  | none =>
    refine ⟨_, _, _, rfl, rfl, ?_, ?_⟩
    · rw [hsame]
    · rw [Array.toList_push, Array.toList_push]
      exact List.rel_append hevents (.cons hevent .nil)
  | some r =>
    refine ⟨_, _, _, rfl, rfl, ?_, hevents⟩
    rw [hsame]

/-- Operations that leave the same event answer alike. -/
private theorem operate_same (h : p.Alike a b p') (operation event : String) :
    AlikeAnswers (Alike a b) (p.operate operation event) (p'.operate operation event) := by
  obtain ⟨o, q, q', hp, hp', hq⟩ := h.operate operation (.same event)
  rw [hp, hp']
  exact ⟨rfl, hq⟩

/-- Operations that succeed alike change the page in the same way. -/
private theorem thenChange_operate (h : p.Alike a b p') (operation event : String)
    {f : ScriptedPage → ScriptedPage}
    (hf : ∀ q events, f { q with events := events } = { f q with events := events })
    (hevents : ∀ q, (f q).events = q.events) :
    AlikeAnswers (Alike a b) (thenChange (p.operate operation event) f)
      (thenChange (p'.operate operation event) f) := by
  obtain ⟨o, q, q', hp, hp', hq⟩ := h.operate operation (.same event)
  rw [hp, hp']
  rcases o with err | ⟨⟩
  · exact ⟨rfl, hq⟩
  · exact ⟨rfl, hq.change hf hevents⟩

/-- What is read off a page that does not depend on its events. -/
private theorem reading {α : Type} (h : p.Alike a b p') (f : ScriptedPage → Except PageError α)
    (hf : ∀ q events, f { q with events := events } = f q) :
    AlikeAnswers (Alike a b) (f p, p) (f p', p') := by
  have hsame := hf p p'.events
  rw [← h.same] at hsame
  exact ⟨hsame.symm, h⟩

/-- Pages that differ in what was typed answer calls alike, and differ in no other way afterwards. -/
theorem call (h : p.Alike a b p') (c : PageCall) :
    AlikeAnswers (Alike a b) (p.call c) (p'.call c) := by
  cases c with
  | goto url timeout => exact h.thenChange_operate _ _ (fun _ _ ↦ rfl) fun _ ↦ rfl
  | setCookies cookies => exact h.thenChange_operate _ _ (fun _ _ ↦ rfl) fun _ ↦ rfl
  | reload => exact h.operate_same _ _
  | waitForNavigation timeout => exact h.operate_same _ _
  | scrollIntoView selector index => exact h.operate_same _ _
  | bringToFront => exact h.operate_same _ _
  | url => exact h.reading (fun q ↦ .ok q.url) fun _ _ ↦ rfl
  | title => exact h.reading (fun q ↦ .ok q.title) fun _ _ ↦ rfl
  | content =>
    exact h.reading (fun q ↦ .ok (String.join (q.elements.map fun e ↦ e.2.source))) fun _ _ ↦ rfl
  | cookies => exact h.reading (fun q ↦ .ok q.cookies) fun _ _ ↦ rfl
  | count selector => exact h.reading (fun q ↦ .ok (q.find selector).length) fun _ _ ↦ rfl
  | texts selector attr =>
    exact h.reading (fun q ↦ .ok ((q.find selector).map (read attr))) fun _ _ ↦ rfl
  | childTexts parent child attr =>
    rw [ScriptedPage.call, ScriptedPage.call, h.find_eq]
    exact ⟨rfl, h⟩
  | firstContent selector attr =>
    rw [ScriptedPage.call, ScriptedPage.call, h.find_eq]
    exact ⟨rfl, h⟩
  | boxModel selector =>
    rw [ScriptedPage.call, ScriptedPage.call, h.find_eq]
    cases (p.find selector).head? with
    | some e => exact ⟨rfl, h⟩
    | none => exact ⟨rfl, h⟩
  | click selector index =>
    rw [ScriptedPage.call, ScriptedPage.call, h.find_eq]
    exact .ite ⟨rfl, h⟩ (h.operate_same _ _)
  | typeText selector text =>
    rw [ScriptedPage.call, ScriptedPage.call, h.find_eq]
    exact .ite ⟨rfl, h⟩ (h.operate_same _ _)
  | evaluate script =>
    obtain ⟨o, q, q', hp, hp', hq⟩ := h.operate "evaluate" (.same ("evaluate " ++ script))
    rw [ScriptedPage.call, ScriptedPage.call, hp, hp']
    rcases o with err | ⟨⟩ <;> exact ⟨rfl, hq⟩
  | screenshot request =>
    obtain ⟨o, q, q', hp, hp', hq⟩ := h.operate "screenshot"
      (.same ("screenshot " ++ request.path ++ " " ++ clipText request.clip))
    rw [ScriptedPage.call, ScriptedPage.call, hp, hp']
    rcases o with err | ⟨⟩ <;> exact ⟨rfl, hq⟩
  | waitForSelector selector visible timeout =>
    obtain ⟨o, q, q', hp, hp', hq⟩ := h.operate "wait" (.same ("wait " ++ selector))
    have hfound : q'.find selector = q.find selector := hq.find_eq selector
    rw [ScriptedPage.call, ScriptedPage.call, hp, hp']
    rcases o with err | ⟨⟩
    · exact ⟨rfl, hq⟩
    · dsimp only
      rw [hfound]
      split
      · exact ⟨rfl, hq⟩
      · exact ⟨rfl, hq⟩

/-- So they do when the one text is typed and when the other one is. -/
theorem typeText (h : p.Alike a b p') (selector : String) :
    AlikeAnswers (Alike a b) (p.call (.typeText selector a)) (p'.call (.typeText selector b)) := by
  rw [ScriptedPage.call, ScriptedPage.call, h.find_eq]
  refine .ite ⟨rfl, h⟩ ?_
  obtain ⟨o, q, q', hp, hp', hq⟩ := h.operate "type" (.typed selector)
  rw [hp, hp']
  exact ⟨rfl, hq⟩

end ScriptedPage.Alike

/-! ### Rehearsals -/

/-- Two rehearsals are the same, but for typed texts in the events of the pages that were handed
out. -/
structure Rehearsal.Alike (a b : String) (r r' : Rehearsal) : Prop where
  same : r' = { r with pages := r'.pages }
  pages : ∀ p : PageId, Option.Rel (ScriptedPage.Alike a b) r.pages[p]? r'.pages[p]?

namespace Rehearsal

variable {a b : String} {r r' : Rehearsal}

theorem Alike.refl (r : Rehearsal) : r.Alike a b r := by
  refine ⟨rfl, fun p ↦ ?_⟩
  cases r.pages[p]? with
  | none => exact .none
  | some page => exact .some (.refl page)

/-- A page is replaced by pages that differ in what was typed. -/
private theorem Alike.set {page page' : ScriptedPage} (h : r.Alike a b r')
    (hpage : page.Alike a b page') (p : PageId) :
    Alike a b { r with pages := r.pages.set! p page } { r' with pages := r'.pages.set! p page' } := by
  obtain ⟨hsame, hpages⟩ := h
  refine ⟨by rw [hsame], fun q ↦ ?_⟩
  show Option.Rel _ (r.pages.set! p page)[q]? (r'.pages.set! p page')[q]?
  have hsize : r.pages.size ≤ p ↔ r'.pages.size ≤ p := by
    rw [← Array.getElem?_eq_none_iff, ← Array.getElem?_eq_none_iff]
    have hp := hpages p
    generalize r.pages[p]? = o, r'.pages[p]? = o' at hp
    cases hp with
    | none => rfl
    | some => exact iff_of_false nofun nofun
  rw [Array.set!_eq_setIfInBounds, Array.set!_eq_setIfInBounds, Array.getElem?_setIfInBounds,
    Array.getElem?_setIfInBounds]
  by_cases hq : p = q
  · rw [if_pos hq, if_pos hq]
    by_cases hp : r.pages.size ≤ p
    · rw [if_neg (Nat.not_lt.2 hp), if_neg (Nat.not_lt.2 (hsize.1 hp))]
      exact .none
    · rw [if_pos (Nat.not_le.1 hp), if_pos (Nat.not_le.1 (mt hsize.2 hp))]
      exact .some hpage
  · rw [if_neg hq, if_neg hq]
    exact hpages q

/-- Calls that pages answer alike are answered alike. -/
theorem hides (a b : String) : surroundings.Hides (Alike a b) a b where
  page {r r'} h p c := by
    show AlikeAnswers _ (callPage p c r) (callPage p c r')
    have hpage := h.pages p
    rw [callPage, callPage]
    generalize r.pages[p]? = o, r'.pages[p]? = o' at hpage
    cases hpage with
    | none => exact ⟨rfl, h⟩
    | some hpage =>
      obtain ⟨ho, hafter⟩ := hpage.call c
      exact ⟨ho, h.set hafter p⟩
  typed {r r'} h p selector := by
    show AlikeAnswers _ (callPage p (.typeText selector a) r) (callPage p (.typeText selector b) r')
    have hpage := h.pages p
    rw [callPage, callPage]
    generalize r.pages[p]? = o, r'.pages[p]? = o' at hpage
    cases hpage with
    | none => exact ⟨rfl, h⟩
    | some hpage =>
      obtain ⟨ho, hafter⟩ := hpage.typeText selector
      exact ⟨ho, h.set hafter p⟩
  now {r r'} h := by
    rw [h.same]
    rfl

end Rehearsal
end WebRecipe
