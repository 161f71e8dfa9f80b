import WebRecipe.Proofs.Page.Turns

/-!
# The pages of a run

When a run has ended, its store holds no page, and each page that was handed out was closed, or has
given way to another page under its label. This holds for all turns that leave whoever has taken a
page alone until he has put it away, and the turns that a run takes are of this kind.

## Main definitions

* `Engine.happeningsBy`: all that happens in a run.
* `PutAway`: nothing is left of the pages that were handed out.

## Main results

* `Custody.putAway`: the end of a run puts away the pages that are in custody.
* `Engine.pages_put_away`: the pages of a run.
* `Engine.replaced_page_stays_open`: a page that has given way to another one is not closed.
-/

namespace WebRecipe

variable {σ : Type}

/-! ### The beginning and the end of a run -/

namespace Engine

variable {s : Surroundings σ}

/-- The first page of a run is put into the store. -/
theorem openFirstPage_stows : openFirstPage.run.Stows s none := by
  refine ⟨nofun, nofun, fun w ↦ ?_⟩
  generalize (w.answer s .openPage).1 = reply
  cases reply with
  | error e => rfl
  | ok page =>
    refine ⟨fun p hp ↦ ?_, nofun, fun _ ↦ ?_⟩
    · cases hp
      exact .insert defaultPageLabel
    · exact .command nofun fun _ ↦ rfl

/-- When no page could be opened, the store is as it was. -/
theorem store_of_openFirstPage_fails {w w' : World σ} {err : ActionError}
    (h : openFirstPage.run.run s w = (some (.error err), w')) : w'.store = w.store := by
  rw [openFirstPage, Action.run_command_bind] at h
  cases hopen : (w.answer s .openPage).1 with
  | error e =>
    rw [hopen] at h
    cases h
    rfl
  | ok page =>
    rw [hopen] at h
    cases h

/-- A run begins without pages. -/
theorem pages_initialStore (env : Environment) (payloadId : Option String) :
    (initialStore env payloadId).pages = [] ∧ (initialStore env payloadId).activePage = none := by
  have hseeded : (Store.seeded env).pages = [] ∧ (Store.seeded env).activePage = none := by
    rw [Store.seeded]
    refine List.foldlRecOn env _
      (motive := fun st : Store ↦ st.pages = [] ∧ st.activePage = none) ⟨rfl, rfl⟩ ?_
    rintro st hst ⟨name, value⟩ -
    dsimp only
    split
    · split
      · exact hst
      · rw [Store.pages_put, Store.activePage_put]
        exact hst
    · exact hst
  cases payloadId with
  | none => exact hseeded
  | some id =>
    rw [initialStore, Store.pages_put, Store.activePage_put]
    exact hseeded

/-- Closing pages leaves the store alone, and closes each of them. -/
private theorem closeAll_bind (f : Unit → Routine Unit) (pages : List (String × PageId))
    (w : World σ) :
    ∃ closings w', (closeAll pages >>= f).happenings s w = closings ++ (f ()).happenings s w' ∧
      (closeAll pages >>= f).run s w = (f ()).run s w' ∧ w'.store = w.store ∧
      (∀ entry ∈ pages, ∃ y ∈ closings, y.command = .closePage entry.2) ∧
      ∀ y ∈ closings, y.command ≠ .openPage := by
  induction pages generalizing w with
  | nil => exact ⟨[], w, rfl, rfl, rfl, nofun, nofun⟩
  | cons entry pages ih =>
    obtain ⟨closings, w', hhappenings, hrun, hstore, hcloses, hopens⟩ :=
      ih (w.answer s (.closePage entry.2)).2
    refine ⟨⟨w, .closePage entry.2⟩ :: closings, w', congrArg (List.cons _) hhappenings, hrun,
      hstore,
      List.forall_mem_cons.2 ⟨⟨_, List.mem_cons_self, rfl⟩, fun other hother ↦ ?_⟩,
      List.forall_mem_cons.2 ⟨nofun, hopens⟩⟩
    obtain ⟨y, hy, hcloses⟩ := hcloses other hother
    exact ⟨y, List.mem_cons_of_mem _ hy, hcloses⟩

/-- At the end of a run each page in the store is closed, and none is left there. -/
theorem conclude_closes (payloadId : Option String) (outcome : Except ActionError Unit)
    (w : World σ) :
    ((conclude payloadId outcome).run s w).2.store.pages = [] ∧
      ((conclude payloadId outcome).run s w).2.store.activePage = none ∧
      (∀ p, w.store.Holds p →
        ∃ y ∈ (conclude payloadId outcome).happenings s w, y.command = .closePage p) ∧
      ∀ y ∈ (conclude payloadId outcome).happenings s w, y.command ≠ .openPage := by
  have hclosing (w : World σ) :
      ((conclude payloadId (.ok ())).run s w).2.store.pages = [] ∧
        ((conclude payloadId (.ok ())).run s w).2.store.activePage = none ∧
        (∀ p, w.store.Holds p →
          ∃ y ∈ (conclude payloadId (.ok ())).happenings s w, y.command = .closePage p) ∧
        ∀ y ∈ (conclude payloadId (.ok ())).happenings s w, y.command ≠ .openPage := by
    let ending : Routine Unit := do
      Routine.command (.store (.setIndent 0))
      Routine.command (.display "Grabber finished")
    obtain ⟨closings, w', hhappenings, hrun, hstore, hcloses, hopens⟩ :=
      closeAll_bind (s := s) (fun _ ↦ ending) w.store.pages (w.answer s (.store .takePages)).2
    have hall : (conclude payloadId (.ok ())).happenings s w =
        ⟨w, .store .takePages⟩ :: (closings ++ ending.happenings s w') := by
      rw [← hhappenings]
      rfl
    have hlast : ((conclude payloadId (.ok ())).run s w).2.store = w'.store.setIndent 0 :=
      congrArg (·.2.store) hrun
    rw [hall, hlast, hstore]
    refine ⟨rfl, rfl, ?_, ?_⟩
    · rintro p ⟨label, hlabel⟩
      obtain ⟨l, l', hpages, -⟩ := List.lookup_eq_some_iff.1 hlabel
      obtain ⟨y, hy, hcommand⟩ := hcloses (label, p) (by
        rw [hpages]
        exact List.mem_append_right _ List.mem_cons_self)
      exact ⟨y, List.mem_cons_of_mem _ (List.mem_append_left _ hy), hcommand⟩
    · refine List.forall_mem_cons.2 ⟨nofun, List.forall_mem_append.2 ⟨hopens, ?_⟩⟩
      exact List.forall_mem_cons.2 ⟨nofun, List.forall_mem_cons.2 ⟨nofun, nofun⟩⟩
  cases outcome with
  | ok => exact hclosing w
  | error e =>
    obtain ⟨hpages, hactive, hcloses, hopens⟩ :=
      hclosing (w.answer s (.report (Output.errorLine payloadId e.message))).2
    refine ⟨hpages, hactive, fun p hp ↦ ?_, List.forall_mem_cons.2 ⟨nofun, hopens⟩⟩
    obtain ⟨y, hy, hcommand⟩ := hcloses p hp
    exact ⟨y, List.mem_cons_of_mem _ hy, hcommand⟩

end Engine

/-! ### Runs -/

/-- The pages of a run are put away: the store holds none, none is active, and each page that was
handed out was closed later, or another page was put into the store under its label. -/
structure PutAway (s : Surroundings σ) (happenings : List (Happening σ)) (st : Store) : Prop where
  noPages : st.pages = []
  noActivePage : st.activePage = none
  handedOut : ∀ before x later p, happenings = before ++ x :: later → x.HandsOut s p →
    ∃ y ∈ later, y.Closes s p ∨ y.Displaces p

/-- The end of a run puts away the pages that are in custody. -/
theorem Custody.putAway {s : Surroundings σ} (hclose : ∀ p r, (s.closePage p r).1 = .ok ())
    {st : Store} {xs : List (Happening σ)} {w : World σ} (h : Custody s none st xs none w.store)
    (payloadId : Option String) (outcome : Except ActionError Unit) :
    PutAway s (xs ++ (Engine.conclude payloadId outcome).happenings s w)
      ((Engine.conclude payloadId outcome).run s w).2.store := by
  obtain ⟨hpages, hactive, hcloses, hopens⟩ := Engine.conclude_closes (s := s) payloadId outcome w
  generalize (Engine.conclude payloadId outcome).happenings s w = ys at hcloses hopens ⊢
  refine ⟨hpages, hactive, fun before x later p hsplit hx ↦ ?_⟩
  have hopen : x.command = .openPage := congrArg Deed.command hx
  have hlast : x ∉ ys := fun hmem ↦ hopens x hmem hopen
  -- pages are handed out before the end only
  rcases List.append_eq_append_iff.1 hsplit with ⟨middle, -, rfl⟩ | ⟨middle, rfl, hlater⟩
  · exact absurd (List.mem_append_right _ List.mem_cons_self) hlast
  · cases middle with
    | nil =>
      rw [List.nil_append] at hlater
      exact absurd (hlater ▸ List.mem_cons_self) hlast
    | cons x' middle =>
      obtain ⟨rfl, rfl⟩ := List.cons.inj hlater
      rcases h.handedOut hclose hx with ⟨y, hy, hends⟩ | hhand | hholds
      · exact ⟨y, List.mem_append_left _ hy, hends⟩
      · cases hhand
      · obtain ⟨y, hy, hcommand⟩ := hcloses p hholds
        exact ⟨y, List.mem_append_right _ hy, .inl (Happening.closes_of_command hcommand hclose)⟩

namespace Engine

/-- All that happens in a run with given turns. -/
def happeningsBy (e : Engine) (s : Surroundings σ) (w : World σ) (env : Environment)
    (recipes : List Recipe) (selection payloadId : Option String) (turns : List Turn) :
    List (Happening σ) :=
  let w := { w with store := initialStore env payloadId }
  openFirstPage.run.happenings s w ++
    match openFirstPage.run.run s w with
    | (some (.ok ()), w) =>
      let m := Machine.start w (e.stages recipes selection)
      m.happenings s turns ++
        match (m.advanceAll s turns).outcome? with
        | some outcome => (conclude payloadId outcome).happenings s (m.advanceAll s turns).world
        | none => []
    | _ => []

/-- The pages of a run of built-in actions, in surroundings in which a page can always be closed.
Whatever the recipes are and however the run ends, its pages are put away, provided that somebody
who has taken a page goes on until he has put it away. The turns that a run takes in fact are such
turns, unless it is given up. -/
theorem pages_put_away {e : Engine} {s : Surroundings σ}
    (hreg : e.registry = Action.builtinRegistry) (hclose : ∀ p r, (s.closePage p r).1 = .ok ())
    (w : World σ) (env : Environment) (recipes : List Recipe)
    (selection payloadId : Option String) :
    (∀ turns, Machine.Undivided s Deed.Takes (e.begun s w env recipes selection payloadId) turns →
      (e.runBy s w env recipes selection payloadId turns).1 ≠ none →
        PutAway s (e.happeningsBy s w env recipes selection payloadId turns)
          (e.runBy s w env recipes selection payloadId turns).2.store) ∧
    ((e.run s w env recipes selection payloadId).1 = none ∨
      ∃ turns,
        Machine.Undivided s Deed.Takes (e.begun s w env recipes selection payloadId) turns ∧
          e.run s w env recipes selection payloadId =
            e.runBy s w env recipes selection payloadId turns) := by
  refine ⟨fun turns hundivided houtcome ↦ ?_,
    run_eq_runBy_undivided (fun _ ↦ Deed.Takes.goesOn) e s w env recipes selection payloadId⟩
  have hopening := (openFirstPage_stows (s := s)).custody
    { w with store := initialStore env payloadId }
  rw [begun] at hundivided
  rw [runBy] at houtcome ⊢
  rw [happeningsBy]
  rcases run_openFirstPage s { w with store := initialStore env payloadId } with
    ⟨message, w', hopen⟩ | ⟨w', hopen⟩
  · obtain ⟨hpages, hactive⟩ := pages_initialStore env payloadId
    have hstore := store_of_openFirstPage_fails hopen
    rw [hopen] at hopening ⊢
    dsimp only at hopening hstore ⊢
    rw [List.append_nil]
    refine ⟨by rw [hstore]; exact hpages, by rw [hstore]; exact hactive,
      fun before x later p hsplit hx ↦ ?_⟩
    rw [hsplit] at hopening
    rcases hopening.handedOut hclose hx with hends | hhand | ⟨label, hlabel⟩
    · exact hends
    · cases hhand
    · rw [hstore, Store.page?, hpages] at hlabel
      cases hlabel
  · rw [hopen] at hopening hundivided houtcome ⊢
    dsimp only at hopening houtcome ⊢
    cases hlast : ((Machine.start w' (e.stages recipes selection)).advanceAll s turns).outcome? with
    | none =>
      rw [hlast] at houtcome
      exact absurd rfl houtcome
    | some outcome =>
      have hcustody := hopening.append (custody_of_outcome hreg hundivided hlast)
      dsimp only
      rw [← List.append_assoc]
      exact hcustody.putAway hclose payloadId outcome

/-- Two pages are opened, under two labels. -/
def openingTwo (first second : String) : Recipe :=
  ⟨"opening", none, [⟨"newPage", some [("pageKey", .str first)], true⟩,
    ⟨"newPage", some [("pageKey", .str second)], true⟩]⟩

/-- Two pages under two labels are put away at the end of a rehearsal. -/
theorem pages_put_away_openingTwo :
    let e : Engine := { registry := Action.builtinRegistry }
    let w : World Rehearsal := { rest := {} }
    let recipes := [openingTwo "a" "b"]
    let turns := List.replicate 48 Turn.main
    (e.runBy Rehearsal.surroundings w [] recipes none none turns).1 ≠ none ∧
      PutAway Rehearsal.surroundings
        (e.happeningsBy Rehearsal.surroundings w [] recipes none none turns)
        (e.runBy Rehearsal.surroundings w [] recipes none none turns).2.store := by
  intro e w recipes turns
  have hended : (e.runBy Rehearsal.surroundings w [] recipes none none turns).1.isSome := by
    decide +kernel
  have hsome := Option.isSome_iff_ne_none.1 hended
  exact ⟨hsome, (pages_put_away rfl (fun _ _ ↦ rfl) w [] recipes none none).1 turns
    (.replicate 48 .main) hsome⟩

/-- The second of two pages under the same label takes the place of the first one, which is never
closed. -/
theorem replaced_page_stays_open :
    let r := run { registry := Action.builtinRegistry } Rehearsal.surroundings { rest := {} } []
      [openingTwo "a" "a"] none none
    r.1.isSome ∧ r.2.store.pages = [] ∧
      r.2.rest.pages.map (·.closed) = #[true, false, true] := by
  decide +kernel

end Engine
end WebRecipe
