import WebRecipe.Proofs.Members
import WebRecipe.Store

/-!
# What an operation changes in a store

An operation on a store writes a value under one name, or is about pages. A write leaves alone the
values under all other names and all pages, and an operation on pages leaves alone all values.

The two names that show the pages to readers are no names of values. So a write under one of them is
not seen by what comes after it, except for a write that appends: the appended value is there for
those who look for a value under the very name.

## Main definitions

* `Store.AgreeOn`: two stores have the same pages, and the same values under some names.
* `StoreOperation`: what can be done with a store.

## Main results

* `StoreAccess.get?_answer`: the values that an access leaves alone.
* `Store.get?_put_self`: the value that was put.
* `StoreOperation.agreeOn_run`, `StoreOperation.reply_eq`: two stores that agree go on doing so, and
  give the same replies.
* `StoreOperation.page_views_frame`: who sees a write under the names of the page views, and what
  writes and operations on pages leave alone.
-/

namespace WebRecipe

/-! ### Stores -/

namespace Store

/-- A name that is no view of the pages stands for what was put under it. -/
theorem get?_eq {s : Store} {key : String} (h : Key.isPageView key = false) :
    s.get? key = s.values.get? key := by
  rw [Key.isPageView, Bool.or_eq_false_iff, beq_eq_false_iff_ne, beq_eq_false_iff_ne] at h
  rw [get?, if_neg h.1, if_neg h.2]

/-- What is put under a name that is no view of the pages is found there. -/
theorem get?_put_self {s : Store} {key : String} (h : Key.isPageView key = false) (v : Json) :
    (s.put key v).get? key = some v := by
  rw [get?_eq h, put, h]
  exact Members.get?_set_self _ _ _

/-! ### Stores that agree -/

/-- Two stores have the same pages, and the same values under the names of a set. -/
structure AgreeOn (names : String → Prop) (s t : Store) : Prop where
  pages : s.pages = t.pages
  activePage : s.activePage = t.activePage
  values : ∀ key, names key → s.values.get? key = t.values.get? key

namespace AgreeOn

variable {names : String → Prop} {s t u : Store} {key : String}

theorem refl (s : Store) : AgreeOn names s s :=
  ⟨rfl, rfl, fun _ _ ↦ rfl⟩

theorem symm (h : AgreeOn names s t) : AgreeOn names t s :=
  ⟨h.pages.symm, h.activePage.symm, fun k hk ↦ (h.values k hk).symm⟩

theorem trans (h : AgreeOn names s t) (h' : AgreeOn names t u) : AgreeOn names s u :=
  ⟨h.pages.trans h'.pages, h.activePage.trans h'.activePage,
    fun k hk ↦ (h.values k hk).trans (h'.values k hk)⟩

theorem mono {fewer : String → Prop} (h : AgreeOn names s t) (hfewer : ∀ k, fewer k → names k) :
    AgreeOn fewer s t :=
  ⟨h.pages, h.activePage, fun k hk ↦ h.values k (hfewer k hk)⟩

/-- Stores that agree on all names but those of the page views show the same to readers. -/
theorem get?_eq (hnames : ∀ k, Key.isPageView k = false → names k) (h : AgreeOn names s t) :
    s.get? = t.get? := by
  funext k
  by_cases hview : Key.isPageView k = false
  · rw [Store.get?_eq hview, Store.get?_eq hview, h.values k (hnames k hview)]
  · rw [Bool.not_eq_false, Key.isPageView, Bool.or_eq_true, beq_iff_eq, beq_iff_eq] at hview
    rcases hview with rfl | rfl
    · rw [Store.get?, if_pos rfl, Store.get?, if_pos rfl, h.pages]
    · rw [Store.get?, if_neg (by decide), if_pos rfl, Store.get?, if_neg (by decide), if_pos rfl,
        activeLabel?, activeLabel?, h.pages, h.activePage]

theorem page?_eq (h : AgreeOn names s t) (label : String) : s.page? label = t.page? label :=
  congrArg (List.lookup label) h.pages

theorem indent_eq (hnames : ∀ k, Key.isPageView k = false → names k) (h : AgreeOn names s t) :
    s.indent = t.indent := by
  rw [Store.indent, h.get?_eq hnames, Store.indent]

/-- A value that is set is no value under another name. -/
theorem set_of_ne (s : Store) (key : String) (v : Json) :
    AgreeOn (· ≠ key) { s with values := s.values.set key v } s :=
  ⟨rfl, rfl, fun _ hk ↦ Members.get?_set_of_ne hk⟩

end AgreeOn

theorem agreeOn_put (s : Store) (key : String) (v : Json) : AgreeOn (· ≠ key) (s.put key v) s := by
  rw [put]
  split
  · exact .refl s
  · exact .set_of_ne s key v

theorem pages_put (s : Store) (key : String) (v : Json) : (s.put key v).pages = s.pages :=
  (s.agreeOn_put key v).pages

theorem activePage_put (s : Store) (key : String) (v : Json) :
    (s.put key v).activePage = s.activePage :=
  (s.agreeOn_put key v).activePage

/-- What is put under a name leaves the values under all others alone. -/
theorem get?_put_of_ne {s : Store} {key other : String} {v : Json}
    (hview : Key.isPageView other = false) (h : other ≠ key) :
    (s.put key v).get? other = s.get? other := by
  rw [get?_eq hview, get?_eq hview, (s.agreeOn_put key v).values other h]

theorem agreeOn_erase (s : Store) (key : String) : AgreeOn (· ≠ key) (s.erase key) s :=
  ⟨rfl, rfl, fun _ hk ↦ Members.get?_filter fun _ ↦ bne_iff_ne.2 hk⟩

theorem agreeOn_update (s : Store) (key : String) (f : Json → Json) :
    AgreeOn (· ≠ key) (s.update key f) s := by
  rw [update]
  split
  · exact .set_of_ne s key _
  · exact .refl s

/-! ### What keeps stores in agreement -/

namespace AgreeOn

variable {names : String → Prop} {s t : Store}

/-- Values that are set keep stores in agreement, if they are the same where the stores agree on the
name. -/
theorem set (h : AgreeOn names s t) (key : String) {v w : Json} (heq : names key → v = w) :
    AgreeOn names { s with values := s.values.set key v }
      { t with values := t.values.set key w } := by
  refine ⟨h.pages, h.activePage, fun k hk ↦ ?_⟩
  by_cases hkey : k = key
  · subst hkey
    rw [Members.get?_set_self, Members.get?_set_self, heq hk]
  · rw [Members.get?_set_of_ne hkey, Members.get?_set_of_ne hkey, h.values k hk]

theorem put (h : AgreeOn names s t) (key : String) (v : Json) :
    AgreeOn names (s.put key v) (t.put key v) := by
  rw [Store.put, Store.put]
  split
  · exact h
  · exact h.set key fun _ ↦ rfl

theorem erase (h : AgreeOn names s t) (key : String) :
    AgreeOn names (s.erase key) (t.erase key) := by
  refine ⟨h.pages, h.activePage, fun k hk ↦ ?_⟩
  by_cases hkey : k = key
  · subst hkey
    exact (Members.get?_filter_eq_none fun _ ↦ bne_self_eq_false k).trans
      (Members.get?_filter_eq_none fun _ ↦ bne_self_eq_false k).symm
  · rw [(s.agreeOn_erase key).values k hkey, (t.agreeOn_erase key).values k hkey, h.values k hk]

theorem push (h : AgreeOn names s t) (key : String) (v : Json) :
    AgreeOn names (s.push key v) (t.push key v) :=
  h.set key fun hkey ↦ by rw [h.values key hkey]

theorem update (h : AgreeOn names s t) (key : String) (f : Json → Json) :
    AgreeOn names (s.update key f) (t.update key f) := by
  by_cases hkey : names key
  · rw [Store.update, Store.update, h.values key hkey]
    split
    · exact h.set key fun _ ↦ rfl
    · exact h
  · have hother (k : String) (hk : names k) : k ≠ key := fun heq ↦ hkey (heq ▸ hk)
    exact (((s.agreeOn_update key f).mono hother).trans h).trans
      ((t.agreeOn_update key f).mono hother).symm

/-- Stores that agree give the same page for a label, and agree when the label is removed. -/
theorem removePage (h : AgreeOn names s t) (label : String) :
    (s.removePage label).1 = (t.removePage label).1 ∧
      AgreeOn names (s.removePage label).2 (t.removePage label).2 := by
  rw [Store.removePage, Store.removePage, h.page?_eq, h.pages, h.activePage]
  cases t.page? label with
  | none => exact ⟨rfl, h⟩
  | some p => exact ⟨rfl, rfl, rfl, h.values⟩

/-- Stores that agree have a page for a label or not, and agree when it is made the active one. -/
theorem activatePage (h : AgreeOn names s t) (label : String) :
    (s.activatePage label).1 = (t.activatePage label).1 ∧
      AgreeOn names (s.activatePage label).2 (t.activatePage label).2 := by
  rw [Store.activatePage, Store.activatePage, h.page?_eq]
  cases t.page? label with
  | none => exact ⟨rfl, h⟩
  | some p => exact ⟨rfl, h.pages, rfl, h.values⟩

end AgreeOn
end Store

/-! ### Accesses -/

namespace StoreAccess

/-- The name under which an access writes. -/
def written? : StoreAccess → Option String
  | put key _ => some key
  | remove key => some key
  | push key _ => some key
  | setIndent _ => some Key.indent
  | indentIn => some Key.indent
  | indentOut => some Key.indent
  | _ => none

/-- An access that writes leaves alone the pages, and the values under all other names. -/
theorem agreeOn_answer (s : Store) {a : StoreAccess} {key : String}
    (h : a.written? = some key) : Store.AgreeOn (· ≠ key) (a.answer s).2 s := by
  cases a <;> cases h
  case put v => exact s.agreeOn_put key v
  case remove => exact s.agreeOn_erase key
  case push v => exact .set_of_ne s key _
  case setIndent n => exact s.agreeOn_put _ _
  case indentIn => exact s.agreeOn_put _ _
  case indentOut => exact s.agreeOn_put _ _

/-- An access that does not write leaves alone all values. -/
theorem values_answer (s : Store) {a : StoreAccess} (h : a.written? = none) :
    (a.answer s).2.values = s.values := by
  cases a <;> try cases h
  case removePage label =>
    rw [answer, Store.removePage]
    split <;> rfl
  case activatePage label =>
    rw [answer, Store.activatePage]
    split <;> rfl
  all_goals rfl

/-- An access leaves alone what is under any other name than the one that it writes. -/
theorem get?_answer {s : Store} {a : StoreAccess} {key : String}
    (hview : Key.isPageView key = false) (h : a.written? ≠ some key) :
    (a.answer s).2.get? key = s.get? key := by
  rw [Store.get?_eq hview, Store.get?_eq hview]
  cases hwritten : a.written? with
  | none => rw [values_answer s hwritten]
  | some k => exact (agreeOn_answer s hwritten).values key fun hk ↦ h (hk ▸ hwritten)

end StoreAccess

/-! ### Operations -/

/-- What can be done with a store: what actions do, and what is left to the code around them. -/
inductive StoreOperation where
  | access (a : StoreAccess)
  | contains (key : String)
  /-- Changes the value under a name in place, if there is one. -/
  | update (key : String) (f : Json → Json)
  | setInput (value : Json)

namespace StoreOperation

/-- The type of what an operation yields. An update yields what it was handed. -/
def Reply : StoreOperation → Type
  | access a => a.Reply
  | contains _ => Bool
  | update .. => Option Json
  | setInput _ => Unit

/-- What an operation yields, and the store after it. -/
def answer (s : Store) : (o : StoreOperation) → o.Reply × Store
  | access a => a.answer s
  | contains key => (s.contains key, s)
  | update key f => (s.values.get? key, s.update key f)
  | setInput v => ((), s.setInput v)

/-- The store after operations, one after another. -/
def run (s : Store) (ops : List StoreOperation) : Store :=
  ops.foldl (fun st o ↦ (o.answer st).2) s

theorem run_append (s : Store) (before after : List StoreOperation) :
    run s (before ++ after) = run (run s before) after :=
  List.foldl_append

/-- The name under which an operation writes. -/
def written? : StoreOperation → Option String
  | access a => a.written?
  | contains _ => none
  | update key _ => some key
  | setInput _ => some Key.input

/-- The name for which an operation tells whether there is a value. Reading is not of this kind: it
is shown the pages under the names of the page views. -/
def looksUnder? : StoreOperation → Option String
  | access (.remove key) => some key
  | contains key => some key
  | update key _ => some key
  | _ => none

/-- The name of the array to which an operation appends. -/
def appendsTo? : StoreOperation → Option String
  | access (.push key _) => some key
  | _ => none

/-! #### What is left alone -/

/-- An operation that writes leaves alone the pages, and the values under all other names. -/
theorem agreeOn_answer (s : Store) {o : StoreOperation} {key : String}
    (h : o.written? = some key) : Store.AgreeOn (· ≠ key) (o.answer s).2 s := by
  cases o with
  | access a => exact a.agreeOn_answer s h
  | contains _ => cases h
  | update k f =>
    cases h
    exact s.agreeOn_update key f
  | setInput v =>
    cases h
    exact s.agreeOn_put _ v

/-- An operation that does not write leaves alone all values. -/
theorem values_answer (s : Store) {o : StoreOperation} (h : o.written? = none) :
    (o.answer s).2.values = s.values := by
  cases o with
  | access a => exact a.values_answer s h
  | contains _ => rfl
  | update k f => cases h
  | setInput v => cases h

/-! #### Stores that agree -/

variable {names : String → Prop} {s t : Store}

/-- Stores that agree answer alike, unless it is told whether there is a value under a name on which
they need not agree. -/
theorem reply_eq (hnames : ∀ k, Key.isPageView k = false → names k) (h : s.AgreeOn names t)
    {o : StoreOperation} (hlooks : ∀ k, o.looksUnder? = some k → names k) :
    (o.answer s).1 = (o.answer t).1 := by
  have hget : s.get? = t.get? := h.get?_eq hnames
  cases o with
  | access a =>
    cases a with
    | get k => exact congrFun hget k
    | remove k => exact h.values k (hlooks k rfl)
    | resolve params => exact congrArg (Placeholder.resolveMembers · params) hget
    | page label => exact h.page?_eq label
    | removePage label => exact (h.removePage label).1
    | activatePage label => exact (h.activatePage label).1
    | activePage => exact h.activePage
    | takePages => exact h.pages
    | _ => rfl
  | contains k => exact congrArg Option.isSome (h.values k (hlooks k rfl))
  | update k f => exact h.values k (hlooks k rfl)
  | setInput v => rfl

/-- Stores that agree do so after any operation. -/
theorem agreeOn_next (hnames : ∀ k, Key.isPageView k = false → names k) (h : s.AgreeOn names t)
    (o : StoreOperation) : (o.answer s).2.AgreeOn names (o.answer t).2 := by
  have hindent : s.indent = t.indent := h.indent_eq hnames
  cases o with
  | access a =>
    cases a with
    | put k v => exact h.put k v
    | remove k => exact h.erase k
    | push k v => exact h.push k v
    | setIndent n => exact h.put Key.indent (.int n)
    | indentIn =>
      rw [answer, answer, StoreAccess.answer, StoreAccess.answer, Store.indentIn, Store.indentIn,
        hindent]
      exact h.put Key.indent _
    | indentOut =>
      rw [answer, answer, StoreAccess.answer, StoreAccess.answer, Store.indentOut,
        Store.indentOut, hindent]
      exact h.put Key.indent _
    | insertPage label p =>
      exact ⟨congrArg (Store.insertSorted label p) h.pages, h.activePage, h.values⟩
    | removePage label => exact (h.removePage label).2
    | activatePage label => exact (h.activatePage label).2
    | takePages => exact ⟨rfl, rfl, h.values⟩
    | get k => exact h
    | resolve params => exact h
    | page label => exact h
    | activePage => exact h
  | contains k => exact h
  | update k f => exact h.update k f
  | setInput v => exact h.put Key.input v

/-- Stores that agree do so after any operations. -/
theorem agreeOn_run (hnames : ∀ k, Key.isPageView k = false → names k) (ops : List StoreOperation)
    (h : s.AgreeOn names t) : (run s ops).AgreeOn names (run t ops) := by
  induction ops generalizing s t with
  | nil => exact h
  | cons o ops ih => exact ih (agreeOn_next hnames h o)

/-! #### The names of the page views -/

/-- There is no value under a page view in a store that was made from an environment. -/
private theorem get?_values_seeded {key : String} (hview : Key.isPageView key = true)
    (env : List (String × String)) : (Store.seeded env).values.get? key = none := by
  have hput (st : Store) (k : String) (v : Json) (h : st.values.get? key = none) :
      (st.put k v).values.get? key = none := by
    by_cases hk : key = k
    · subst hk
      rwa [Store.put, if_pos hview]
    · exact ((st.agreeOn_put k v).values key hk).trans h
  refine List.foldlRecOn env _ (motive := fun st : Store ↦ st.values.get? key = none) rfl ?_
  rintro st h ⟨name, value⟩ -
  dsimp only
  split
  · split
    · exact h
    · exact hput _ _ _ h
  · exact h

/-- While there is no value under a page view, an operation that does not append changes none. -/
private theorem agreeOn_self {key : String} (hview : Key.isPageView key = true)
    (hnone : s.values.get? key = none) {o : StoreOperation} (hwritten : o.written? = some key)
    (happends : o.appendsTo? ≠ some key) : (o.answer s).2.AgreeOn (fun _ ↦ True) s := by
  have hframe := agreeOn_answer s hwritten
  refine ⟨hframe.pages, hframe.activePage, fun k _ ↦ ?_⟩
  by_cases hk : k = key
  case neg => exact hframe.values k hk
  rw [hk]
  cases o with
  | access a =>
    cases a with
    | put k v =>
      cases hwritten
      rw [answer, StoreAccess.answer, Store.put, if_pos hview]
    | remove k =>
      cases hwritten
      exact (Members.get?_filter_eq_none fun _ ↦ bne_self_eq_false key).trans hnone.symm
    | push k v => exact absurd hwritten happends
    | setIndent n =>
      cases hwritten
      exact absurd hview (by decide)
    | indentIn =>
      cases hwritten
      exact absurd hview (by decide)
    | indentOut =>
      cases hwritten
      exact absurd hview (by decide)
    | _ => cases hwritten
  | contains _ => cases hwritten
  | update k f =>
    cases hwritten
    have hsame : s.update key f = s := by rw [Store.update, hnone]
    exact congrArg (·.values.get? key) hsame
  | setInput v =>
    cases hwritten
    exact absurd hview (by decide)

/-- There is no value under a page view after operations that append nothing to it. -/
private theorem get?_values_run {key : String} (hview : Key.isPageView key = true)
    {ops : List StoreOperation} (happends : ∀ o ∈ ops, o.appendsTo? ≠ some key)
    (hnone : s.values.get? key = none) : (run s ops).values.get? key = none := by
  induction ops generalizing s with
  | nil => exact hnone
  | cons o ops ih =>
    obtain ⟨ho, hops⟩ := List.forall_mem_cons.1 happends
    refine ih hops ?_
    cases hwritten : o.written? with
    | none => rw [values_answer s hwritten, hnone]
    | some k =>
      by_cases hk : key = k
      · have hsame := agreeOn_self hview hnone (hk ▸ hwritten) ho
        exact (hsame.values key trivial).trans hnone
      · exact ((agreeOn_answer s hwritten).values key hk).trans hnone

/-- A write under the name of a page view changes no page and no value under another name: it is
seen only by those that look for a value under the very name. A write that does not append is not
seen by them either, as long as nothing was appended under the name before. No write changes the
pages or which one is active, and what does not write changes no value. -/
theorem page_views_frame (o : StoreOperation) (s : Store) :
    (∀ key, o.written? = some key → Key.isPageView key = true →
      ∀ (before after : List StoreOperation) (seen : StoreOperation),
        (seen.looksUnder? ≠ some key →
          (seen.answer (run s (before ++ o :: after))).1 =
            (seen.answer (run s (before ++ after))).1) ∧
        (o.appendsTo? = none → (∀ p ∈ before, p.appendsTo? ≠ some key) → ∀ env,
          (seen.answer (run (Store.seeded env) (before ++ o :: after))).1 =
            (seen.answer (run (Store.seeded env) (before ++ after))).1)) ∧
    (o.written? ≠ none →
      (o.answer s).2.pages = s.pages ∧ (o.answer s).2.activePage = s.activePage) ∧
    (o.written? = none → (o.answer s).2.values = s.values ∧
      ∀ key, Key.isPageView key = false → (o.answer s).2.get? key = s.get? key) := by
  refine ⟨fun key hwritten hview before after seen ↦ ⟨fun hlooks ↦ ?_,
    fun happends hbefore env ↦ ?_⟩, fun hwritten ↦ ?_, fun hwritten ↦ ?_⟩
  · have hnames (k : String) (hk : Key.isPageView k = false) : k ≠ key := by
      rintro rfl
      exact Bool.false_ne_true (hk.symm.trans hview)
    have hagree := agreeOn_run hnames after (agreeOn_answer (run s before) hwritten)
    rw [run_append, run_append]
    exact reply_eq hnames hagree fun k hk heq ↦ hlooks (heq ▸ hk)
  · have hnone := get?_values_run hview hbefore (get?_values_seeded hview env)
    have hsame := agreeOn_self hview hnone hwritten (happends ▸ (Option.some_ne_none key).symm)
    rw [run_append, run_append]
    exact reply_eq (fun _ _ ↦ trivial) (agreeOn_run (fun _ _ ↦ trivial) after hsame)
      fun _ _ ↦ trivial
  · obtain ⟨key, hkey⟩ := Option.ne_none_iff_exists'.1 hwritten
    exact ⟨(agreeOn_answer s hkey).pages, (agreeOn_answer s hkey).activePage⟩
  · have hvalues := values_answer s hwritten
    refine ⟨hvalues, fun key hkey ↦ ?_⟩
    rw [Store.get?_eq hkey, Store.get?_eq hkey, hvalues]

/-- What is put or appended under the name of the labels leaves alone the labels that a reader is
shown, and what is put there is no value. -/
theorem page_labels_kept :
    ((access (.get Key.pages)).answer (run (Store.seeded [])
        ([access (.insertPage defaultPageLabel 0)] ++
          access (.push Key.pages .null) :: [access (.activatePage defaultPageLabel)]))).1 =
      some (.arr [.str defaultPageLabel]) ∧
    ((contains Key.pages).answer (run (Store.seeded [])
        ([access (.insertPage defaultPageLabel 0)] ++
          access (.put Key.pages (.obj [])) :: []))).1 = false := by
  have hpush := (page_views_frame (access (.push Key.pages .null)) (Store.seeded [])).1 Key.pages
    rfl rfl
  have hput := (page_views_frame (access (.put Key.pages (.obj []))) (Store.seeded [])).1 Key.pages
    rfl rfl
  exact ⟨((hpush _ _ _).1 (by decide)).trans rfl, ((hput _ _ _).2 rfl (by decide) []).trans rfl⟩

/-- A value that is appended under the name of the labels is there. -/
theorem contains_of_push_page_labels :
    ((contains Key.pages).answer (run {} [access (.push Key.pages (.str "x"))])).1 = true ∧
      ((contains Key.pages).answer (run {} [])).1 = false :=
  ⟨rfl, rfl⟩

end StoreOperation
end WebRecipe
