import Mathlib.Data.List.Induction
import Mathlib.Data.String.Basic
import WebRecipe.Proofs.Members
import WebRecipe.Proofs.Page.Custody

/-!
# The active page

A page becomes active under a label of the table, and removing it makes it inactive. So it is in the
table for as long as it is active, unless another page is put under its label: that drops it from
the table and leaves it active. Labels stay in order, so no label is there twice, and the name of
the active page is a label under which it is found.

## Main definitions

* `Store.ofAccesses`: the store that accesses lead to, one after another.
* `Store.Ordered`: the labels are in order.
* `StoreAccess.Supplants`: another page is put under the label of the active one.

## Main results

* `StoreAccess.ordered_answer`, `StoreAccess.active_answer`: what a single access makes of the
  order of the labels and of the active page.
* `Store.get?_activePage_eq`: the name of the active page.
* `Store.active_page_registered`: the active page after any accesses.
-/

namespace WebRecipe

namespace Store

/-- The store that accesses lead to, one after another from an empty one. -/
def ofAccesses (accesses : List StoreAccess) : Store :=
  accesses.foldl (fun st a ↦ (a.answer st).2) {}

theorem ofAccesses_concat (accesses : List StoreAccess) (a : StoreAccess) :
    ofAccesses (accesses ++ [a]) = (a.answer (ofAccesses accesses)).2 :=
  List.foldl_concat ..

/-! ### Labels -/

/-- The labels of the pages are in order. -/
def Ordered (st : Store) : Prop :=
  (st.pages.map Prod.fst).Pairwise (· < ·)

private theorem mem_insertSorted {label l : String} {p q : PageId}
    {pages : List (String × PageId)} (h : (l, q) ∈ insertSorted label p pages) :
    l = label ∨ (l, q) ∈ pages := by
  induction pages with
  | nil => exact .inl (Prod.mk.inj (List.mem_singleton.1 h)).1
  | cons entry pages ih =>
    obtain ⟨m, r⟩ := entry
    rw [insertSorted] at h
    split at h
    · exact (List.mem_cons.1 h).imp_left fun heq ↦ (Prod.mk.inj heq).1
    · split at h
      · exact (List.mem_cons.1 h).imp (fun heq ↦ (Prod.mk.inj heq).1) (List.mem_cons_of_mem _)
      · rcases List.mem_cons.1 h with heq | h
        · exact .inr (List.mem_cons.2 (.inl heq))
        · exact (ih h).imp_right (List.mem_cons_of_mem _)

private theorem pairwise_insertSorted (label : String) (p : PageId)
    {pages : List (String × PageId)} (h : pages.Pairwise (fun a b ↦ a.1 < b.1)) :
    (insertSorted label p pages).Pairwise (fun a b ↦ a.1 < b.1) := by
  induction pages with
  | nil => exact List.pairwise_singleton _ _
  | cons entry pages ih =>
    obtain ⟨l, q⟩ := entry
    obtain ⟨hfirst, hrest⟩ := List.pairwise_cons.1 h
    rw [insertSorted]
    split
    case isTrue hbefore =>
      refine List.pairwise_cons.2 ⟨fun other hother ↦ ?_, h⟩
      rcases List.mem_cons.1 hother with rfl | hother
      · exact hbefore
      · exact hbefore.trans (hfirst other hother)
    case isFalse hnot =>
      split
      case isTrue hsame =>
        subst hsame
        exact List.pairwise_cons.2 ⟨hfirst, hrest⟩
      case isFalse hne =>
        refine List.pairwise_cons.2 ⟨fun other hother ↦ ?_, ih hrest⟩
        rcases mem_insertSorted hother with hlabel | hother
        · exact (lt_of_le_of_ne (not_lt.1 hnot) hne).trans_eq hlabel.symm
        · exact hfirst other hother

variable {st : Store} {label : String} {p : PageId}

/-- Where labels are in order, each page is found under each of its labels. -/
theorem Ordered.page?_of_mem (h : st.Ordered) (hmem : (label, p) ∈ st.pages) :
    st.page? label = some p :=
  lookup_of_mem (h.imp fun hlt ↦ hlt.ne) hmem

/-- The order of the labels is a matter of the table alone. -/
theorem Ordered.of_pages_eq {other : Store} (h : st.Ordered) (hpages : other.pages = st.pages) :
    other.Ordered := by
  rw [Ordered, hpages]
  exact h

/-- A page is put under a label where this stands in the order. -/
theorem Ordered.insertPage (h : st.Ordered) (label : String) (p : PageId) :
    (st.insertPage label p).Ordered :=
  List.pairwise_map.2 (pairwise_insertSorted label p (List.pairwise_map.1 h))

/-- Removing a page leaves the others in order. -/
theorem Ordered.removePage (h : st.Ordered) (label : String) :
    (st.removePage label).2.Ordered := by
  rw [Store.removePage]
  split
  · exact h
  · exact List.Pairwise.sublist (List.filter_sublist.map _) h

/-- A page that is found under a label is in the table. -/
theorem mem_of_page? (h : st.page? label = some p) : (label, p) ∈ st.pages := by
  obtain ⟨before, later, heq, -⟩ := List.lookup_eq_some_iff.1 h
  rw [heq]
  exact List.mem_append_right _ List.mem_cons_self

/-- Where labels are in order, a page is activated exactly under the labels of the table. -/
theorem Ordered.activatePage_eq_true_iff (h : st.Ordered) :
    (st.activatePage label).1 = true ↔ label ∈ st.pages.map Prod.fst := by
  rw [activatePage]
  cases hpage : st.page? label with
  | none =>
    refine iff_of_false Bool.false_ne_true fun hmem ↦ ?_
    obtain ⟨⟨_, p⟩, hentry, rfl⟩ := List.mem_map.1 hmem
    cases hpage.symm.trans (h.page?_of_mem hentry)
  | some p => exact iff_of_true rfl (List.mem_map.2 ⟨_, mem_of_page? hpage, rfl⟩)

/-! ### The name of the active page -/

private theorem get?_activePage (hactive : st.activePage = some p) :
    st.get? Key.activePage =
      (st.pages.find? (fun entry ↦ entry.2 == p)).map fun entry ↦ .str entry.1 := by
  rw [get?, if_neg (by decide), if_pos rfl, activeLabel?, hactive, Option.bind_some,
    Option.map_map]
  rfl

/-- The name of an active page that is in the table is a label under which it is found. -/
theorem Ordered.get?_activePage_of_holds (h : st.Ordered) (hactive : st.activePage = some p)
    (hholds : st.Holds p) :
    ∃ label, st.get? Key.activePage = some (.str label) ∧ st.page? label = some p := by
  obtain ⟨label, hlabel⟩ := hholds
  have hfound : (st.pages.find? (fun entry ↦ entry.2 == p)).isSome = true :=
    List.find?_isSome.2 ⟨_, mem_of_page? hlabel, beq_self_eq_true p⟩
  obtain ⟨⟨l, q⟩, hentry⟩ := Option.isSome_iff_exists.1 hfound
  obtain rfl : q = p := by simpa using List.find?_some hentry
  refine ⟨l, ?_, h.page?_of_mem (List.mem_of_find?_eq_some hentry)⟩
  rw [get?_activePage hactive, hentry, Option.map_some]

/-- An active page that is not in the table has no name. -/
theorem Ordered.get?_activePage_of_not_holds (h : st.Ordered) (hactive : st.activePage = some p)
    (hlost : ¬ st.Holds p) : st.get? Key.activePage = none := by
  have hnone : st.pages.find? (fun entry ↦ entry.2 == p) = none := by
    refine List.find?_eq_none.2 fun entry hentry hp ↦ hlost ⟨entry.1, ?_⟩
    rw [← beq_iff_eq.1 hp]
    exact h.page?_of_mem hentry
  rw [get?_activePage hactive, hnone, Option.map_none]

end Store

/-! ### Accesses -/

namespace StoreAccess

variable {st : Store} {p : PageId}

/-- An access leaves the labels in order. -/
theorem ordered_answer (a : StoreAccess) (h : st.Ordered) : (a.answer st).2.Ordered := by
  cases a with
  | insertPage label p => exact h.insertPage label p
  | removePage label => exact h.removePage label
  | activatePage label =>
    rw [answer, Store.activatePage]
    split <;> exact h
  | takePages => exact List.Pairwise.nil
  | put key v => exact h.of_pages_eq (Store.pages_put st key v)
  | setIndent n => exact h.of_pages_eq (Store.pages_put st _ _)
  | indentIn => exact h.of_pages_eq (Store.pages_put st _ _)
  | indentOut => exact h.of_pages_eq (Store.pages_put st _ _)
  | _ => exact h

/-- Another page is put under a label of an active one. -/
def Supplants (a : StoreAccess) (st : Store) (p : PageId) : Prop :=
  ∃ label q, a = insertPage label q ∧ q ≠ p ∧ st.activePage = some p ∧ st.page? label = some p

/-- What becomes of an active page that an access leaves alone. -/
private theorem active_of_eq {a : StoreAccess} (hactive : st.activePage = some p)
    (hpages : ∀ label, st.page? label = some p →
      (a.answer st).2.page? label = some p ∨ a.Supplants st p) :
    (a.answer st).2.Holds p ∨ a.Supplants st p ∨ (st.activePage = some p ∧ ¬ st.Holds p) := by
  by_cases hholds : st.Holds p
  · obtain ⟨label, hlabel⟩ := hholds
    rcases hpages label hlabel with hstays | hsupplants
    · exact .inl ⟨label, hstays⟩
    · exact .inr (.inl hsupplants)
  · exact .inr (.inr ⟨hactive, hholds⟩)

/-- What becomes of an active page where a value is put under a name. -/
private theorem active_of_put {a : StoreAccess} (key : String) (v : Json)
    (hput : (a.answer st).2 = st.put key v) (h : (a.answer st).2.activePage = some p) :
    (a.answer st).2.Holds p ∨ a.Supplants st p ∨ (st.activePage = some p ∧ ¬ st.Holds p) := by
  have hactive : st.activePage = some p := by
    rwa [hput, Store.activePage_put] at h
  refine active_of_eq hactive fun l hl ↦ .inl ?_
  rw [hput, Store.page?, Store.pages_put]
  exact hl

/-- A page that is active after an access is in the table then, unless the access put another page
in its place, or it was active but not in the table before. -/
theorem active_answer {a : StoreAccess} (h : (a.answer st).2.activePage = some p) :
    (a.answer st).2.Holds p ∨ a.Supplants st p ∨ (st.activePage = some p ∧ ¬ st.Holds p) := by
  cases a with
  | insertPage label q =>
    have hactive : st.activePage = some p := h
    refine active_of_eq hactive fun l hl ↦ ?_
    by_cases hlabel : l = label
    · subst hlabel
      by_cases hq : q = p
      · subst hq
        exact .inl (Store.page?_insertPage_self st l q)
      · exact .inr ⟨l, q, rfl, hq, hactive, hl⟩
    · exact .inl ((Store.page?_insertPage_of_ne hlabel st q).trans hl)
  | removePage label =>
    have hactive : st.activePage = some p ∧ st.page? label ≠ some p := by
      rw [answer, Store.removePage] at h
      split at h
      case h_1 hnone => exact ⟨h, fun hp ↦ Option.some_ne_none p (hp.symm.trans hnone)⟩
      case h_2 q hsome =>
        dsimp only at h
        split at h
        case isTrue => cases h
        case isFalse hother => exact ⟨h, fun hp ↦ hother (h.trans (hp.symm.trans hsome))⟩
    refine active_of_eq hactive.1 fun l hl ↦ .inl ?_
    have hlabel : l ≠ label := fun hlabel ↦ hactive.2 (hlabel ▸ hl)
    exact (Store.page?_removePage_of_ne hlabel st).trans hl
  | activatePage label =>
    cases hpage : st.page? label with
    | none =>
      have hsame : (st.activatePage label).2 = st := by rw [Store.activatePage, hpage]
      refine active_of_eq (hsame ▸ h) fun l hl ↦ .inl ?_
      exact (congrArg (Store.page? · l) hsame).trans hl
    | some q =>
      have hchosen : (st.activatePage label).2 = { st with activePage := some q } := by
        rw [Store.activatePage, hpage]
      obtain rfl : q = p := Option.some.inj ((congrArg Store.activePage hchosen).symm.trans h)
      exact .inl ⟨label, (congrArg (Store.page? · label) hchosen).trans hpage⟩
  | takePages => cases h
  | put key v => exact active_of_put key v rfl h
  | setIndent n => exact active_of_put Key.indent _ rfl h
  | indentIn => exact active_of_put Key.indent _ rfl h
  | indentOut => exact active_of_put Key.indent _ rfl h
  | _ => exact active_of_eq h fun _ ↦ .inl

end StoreAccess

namespace Store

/-- The labels are always in order. -/
theorem ordered_ofAccesses (accesses : List StoreAccess) : (ofAccesses accesses).Ordered := by
  induction accesses using List.reverseRecOn with
  | nil => exact List.Pairwise.nil
  | append_singleton accesses a ih =>
    rw [ofAccesses_concat]
    exact a.ordered_answer ih

/-- An active page is in the table, or another page was put in its place while it was active. -/
private theorem holds_or_supplanted {accesses : List StoreAccess} {p : PageId}
    (h : (ofAccesses accesses).activePage = some p) :
    (ofAccesses accesses).Holds p ∨ ∃ earlier a later, accesses = earlier ++ a :: later ∧
      a.Supplants (ofAccesses earlier) p := by
  induction accesses using List.reverseRecOn with
  | nil => cases h
  | append_singleton accesses a ih =>
    rw [ofAccesses_concat] at h ⊢
    rcases StoreAccess.active_answer h with hholds | hsupplants | ⟨hactive, hlost⟩
    · exact .inl hholds
    · exact .inr ⟨accesses, a, [], rfl, hsupplants⟩
    · obtain ⟨earlier, b, later, rfl, hsupplants⟩ := (ih hactive).resolve_left hlost
      exact .inr ⟨earlier, b, later ++ [a], by simp, hsupplants⟩

/-- **The active page after any accesses to an empty store.** A label can be activated exactly if it
is in the table. The name of the active page is a label under which it is found, or the active page
has no name: then another page was put under its label while it was active. -/
theorem active_page_registered (accesses : List StoreAccess) :
    (∀ label, ((ofAccesses accesses).activatePage label).1 = true ↔
      label ∈ (ofAccesses accesses).pages.map Prod.fst) ∧
    ∀ p, (ofAccesses accesses).activePage = some p →
      (∃ label, (ofAccesses accesses).get? Key.activePage = some (.str label) ∧
        (ofAccesses accesses).page? label = some p) ∨
      ((ofAccesses accesses).get? Key.activePage = none ∧
        ∃ earlier label q later, accesses = earlier ++ .insertPage label q :: later ∧ q ≠ p ∧
          (ofAccesses earlier).activePage = some p ∧
          (ofAccesses earlier).page? label = some p) := by
  have hordered := ordered_ofAccesses accesses
  refine ⟨fun _ ↦ hordered.activatePage_eq_true_iff, fun p hactive ↦ ?_⟩
  by_cases hholds : (ofAccesses accesses).Holds p
  · exact .inl (hordered.get?_activePage_of_holds hactive hholds)
  · refine .inr ⟨hordered.get?_activePage_of_not_holds hactive hholds, ?_⟩
    obtain ⟨earlier, _, later, rfl, label, q, rfl, hq, hpage, hlabel⟩ :=
      (holds_or_supplanted hactive).resolve_left hholds
    exact ⟨earlier, label, q, later, rfl, hq, hpage, hlabel⟩

/-- The active page keeps its name when another page comes before it. -/
theorem active_page_registered_opened :
    (ofAccesses [.insertPage "b" 1, .activatePage "b", .insertPage "a" 2]).activePage = some 1 ∧
    ∃ label, (ofAccesses [.insertPage "b" 1, .activatePage "b", .insertPage "a" 2]).get?
        Key.activePage = some (.str label) ∧
      (ofAccesses [.insertPage "b" 1, .activatePage "b", .insertPage "a" 2]).page? label =
        some 1 := by
  have hactive : (ofAccesses [.insertPage "b" 1, .activatePage "b", .insertPage "a" 2]).activePage =
      some 1 := by
    decide +kernel
  refine ⟨hactive, ((active_page_registered _).2 1 hactive).resolve_right fun hlost ↦ ?_⟩
  have hname : (ofAccesses [.insertPage "b" 1, .activatePage "b", .insertPage "a" 2]).get?
      Key.activePage ≠ none := by
    decide +kernel
  exact hname hlost.1

/-- A page stays active when its label is given to another one. It is no longer in the table, so the
active page has no name. -/
theorem supplanted_page_stays_active :
    (ofAccesses [.insertPage "a" 1, .activatePage "a", .insertPage "a" 2]).activePage = some 1 ∧
    ¬ (ofAccesses [.insertPage "a" 1, .activatePage "a", .insertPage "a" 2]).Holds 1 ∧
    (ofAccesses [.insertPage "a" 1, .activatePage "a", .insertPage "a" 2]).get? Key.activePage =
      none := by
  have hpages : (ofAccesses [.insertPage "a" 1, .activatePage "a", .insertPage "a" 2]).pages =
      [("a", 2)] := by
    decide +kernel
  refine ⟨by decide +kernel, ?_, by decide +kernel⟩
  rintro ⟨label, hlabel⟩
  have hmem := mem_of_page? hlabel
  rw [hpages] at hmem
  cases List.mem_singleton.1 hmem

end Store
end WebRecipe
