import WebRecipe.Proofs.Page.Seen
import WebRecipe.Proofs.Run.Outcome
import WebRecipe.Proofs.Run.Step
import WebRecipe.Rehearsal

/-!
# The page of a deferred action

A deferred action is prepared by the main sequence, which looks up the page that is active at this
moment, and is carried out at turns of its own, when another page may be the active one. Whoever has
the turn when, it uses the page that was looked up, apart from three kinds of actions. An action
that closes a page or switches to one uses the page that it finds under its label. The actions in a
block are reached one after another. A login performs other actions, and these use the page that is
active when they are performed.

## Main definitions

* `Engine.Reaches`: the main sequence reaches an action that is not awaited.
* `Engine.Uses`: how a deferred action comes by a page.

## Main results

* `Engine.deferred_uses`: every page that a deferred action uses.
* `Engine.login_uses_another_page`: a login uses another page than the one that it was prepared
  with.
-/

namespace WebRecipe

/-! ### Reaching an action -/

/-- Whoever left something in a row did so after those before it. -/
theorem InOrder.split {ι κ : Type} {R : ι → Log → Option κ → Prop} {is : List ι} {l : Log}
    {left : List κ} (h : InOrder R is l left) {n : Nat} {k : κ} (hk : left[n]? = some k) :
    ∃ before i later l₁ l₂ l₃ left₁, is = before ++ i :: later ∧ l = l₁ ++ (l₂ ++ l₃) ∧
      InOrder R before l₁ left₁ ∧ left₁.length = n ∧ R i l₂ (some k) := by
  induction h generalizing n with
  | nil => cases hk
  | @cons i is l₁ l₂ o left hi hrest ih =>
    have hlater {m : Nat} (hm : left[m]? = some k) (hn : o.toList.length + m = n) :
        ∃ before j later l₁' l₂' l₃' left₁, i :: is = before ++ j :: later ∧
          l₁ ++ l₂ = l₁' ++ (l₂' ++ l₃') ∧ InOrder R before l₁' left₁ ∧ left₁.length = n ∧
            R j l₂' (some k) := by
      obtain ⟨before, j, later, l₁', l₂', l₃', left₁, rfl, rfl, hbefore, hlength, hj⟩ := ih hm
      refine ⟨i :: before, j, later, l₁ ++ l₁', l₂', l₃', o.toList ++ left₁, rfl, ?_,
        .cons hi hbefore, ?_, hj⟩
      · rw [List.append_assoc]
      · rw [List.length_append, hlength, hn]
    cases o with
    | none => exact hlater hk (Nat.zero_add n)
    | some k' =>
      cases n with
      | zero =>
        cases hk
        exact ⟨[], i, is, [], l₁, l₂, [], rfl, rfl, .nil, rfl, hi⟩
      | succ n => exact hlater hk (Nat.add_comm 1 n)

namespace Engine

variable {σ : Type} {e : Engine} {s : Surroundings σ}

/-- What a routine ends with after its first command it ends with as a whole. -/
private theorem suffix_of_ends_command {β : Type} {c : Command} {f : c.Reply → Action β}
    {log l : Log} {o : Except ActionError β} {P : Prop}
    (h : (Action.command c >>= f).run.Ends log o)
    (hf : ∀ reply l', (f reply).run.Ends l' o → P ∧ l <:+ l') : P ∧ l <:+ log := by
  obtain ⟨reply, l', rfl, hends⟩ := Routine.ends_command_bind.1 h
  exact (hf reply l' hends).imp_right fun hl ↦ hl.trans (List.suffix_cons _ _)

/-- The preparation of an action looks up its handler, and ends with a look at the active page. -/
theorem ends_prepare {call : ActionCall} {log : Log} {p : Prepared}
    (h : (e.prepare call).run.Ends log (.ok p)) :
    e.registry.get? call.name = some p.handler ∧ [⟨.store .activePage, p.page⟩] <:+ log := by
  rw [prepare] at h
  refine suffix_of_ends_command h fun _ l₁ h₁ ↦ ?_
  refine suffix_of_ends_command h₁ fun _ l₂ h₂ ↦ ?_
  refine suffix_of_ends_command h₂ fun resolved l₃ h₃ ↦ ?_
  refine suffix_of_ends_command h₃ fun _ l₄ h₄ ↦ ?_
  obtain ⟨params, l₅, l₆, rfl, -, h₅⟩ := Routine.ends_bind_ok.1 h₄
  refine And.imp_right (fun hl ↦ List.IsSuffix.trans hl (List.suffix_append l₅ l₆)) ?_
  refine suffix_of_ends_command h₅ fun _ l₇ h₆ ↦ ?_
  cases hhandler : e.registry.get? call.name with
  | none =>
    rw [hhandler] at h₆
    cases (Routine.ends_done.1 h₆).2
  | some handler =>
    rw [hhandler] at h₆
    obtain ⟨page, l₈, rfl, h₇⟩ := Routine.ends_command_bind.1 h₆
    obtain ⟨rfl, hp⟩ := Routine.ends_done.1 h₇
    cases hp
    exact ⟨rfl, List.suffix_refl _⟩

/-- The main sequence reaches an action that is not awaited at its turn after the given ones: the
turn is the last one of its preparation. So many others of its kind were reached before. -/
inductive Reaches (e : Engine) (s : Surroundings σ) (m : Machine σ) (is : List Item)
    (turns : List Turn) (n : Nat) (call : ActionCall) (p : Prepared) : Prop
  | intro {before later : List Item} {l l' : Log} {deferred : List Prepared}
      (split : is = before ++ .action call :: later)
      (all : Machine.logOf s m (turns ++ [.main]) .main = l ++ l')
      (passed : InOrder e.Passes before l deferred) (count : deferred.length = n)
      (await : call.await = false) (prepared : (e.prepare call).run.Ends l' (.ok p))

/-- What a main sequence has started was left by the items that it has passed. -/
private theorem exists_passed {is : List Item} {log : Log} {main : MainSequence}
    {started : List (Action Unit)}
    (h : Machine.Course (is.map (Item.stage e)) log main started) :
    ∃ before later l l' deferred, is = before ++ later ∧ log = l ++ l' ∧
      InOrder e.Passes before l deferred ∧ started = deferred.map e.start := by
  cases h with
  | working split hlog passed _ =>
    obtain ⟨before, item, later, deferred, rfl, -, hpassed, hstarted⟩ := split_of_map split passed
    exact ⟨before, item :: later, _, _, deferred, rfl, hlog, hpassed, hstarted⟩
  | ended passed =>
    obtain ⟨deferred, hpassed, hstarted⟩ := passes_of_passed passed
    exact ⟨is, [], log, [], deferred, (List.append_nil is).symm, (List.append_nil log).symm,
      hpassed, hstarted⟩
  | failed split hlog passed _ =>
    obtain ⟨before, item, later, deferred, rfl, -, hpassed, hstarted⟩ := split_of_map split passed
    exact ⟨before, item :: later, _, _, deferred, rfl, hlog, hpassed, hstarted⟩

/-- Whoever is in flight was reached at some turn, and has the page that was active then. -/
theorem exists_reaches {w : World σ} {recipes : List Recipe} {selection : Option String}
    {turns : List Turn} {n : Nat} {j : Job}
    (h : ((Machine.start w (e.stages recipes selection)).advanceAll s turns).jobs.lookup n =
      some j) :
    ∃ call p early late, turns = early ++ .main :: late ∧
      e.Reaches s (Machine.start w (e.stages recipes selection)) (items recipes selection) early n
        call p ∧
      p.page =
        ((Machine.start w (e.stages recipes selection)).advanceAll s early).world.store.activePage ∧
      e.registry.get? call.name = some p.handler ∧
      (e.start p).run.Goes
        (Machine.logOf s (Machine.start w (e.stages recipes selection)) turns (.job n))
        j.routine := by
  have haccount := Machine.account s w (e.stages recipes selection) turns
  generalize hm : Machine.start w (e.stages recipes selection) = m at h haccount ⊢
  rw [stages_eq] at haccount
  cases haccount with
  | failed _ _ _ dropped =>
    rw [dropped] at h
    cases h
  | going _ course crew =>
    obtain ⟨b, c, l, l', deferred, hitems, hlog, hpassed, rfl⟩ := exists_passed course
    obtain ⟨entries, entries', hjobs, -⟩ := List.lookup_eq_some_iff.1 h
    have hmem : (n, j) ∈ (m.advanceAll s turns).jobs := by
      rw [hjobs]
      exact List.mem_append_right _ List.mem_cons_self
    obtain ⟨a, ha, hgoes⟩ := crew.running n j hmem
    rw [List.getElem?_map] at ha
    obtain ⟨p, hp, rfl⟩ := Option.map_eq_some_iff.1 ha
    obtain ⟨before, item, later, l₁, l₂, l₃, left, rfl, rfl, hbefore, hlength, hitem⟩ :=
      hpassed.split hp
    cases hitem with
    | @deferred call _ _ hawait hprepared =>
      obtain ⟨hget, ⟨l₄, rfl⟩⟩ := ends_prepare hprepared
      have hmain : Machine.logOf s m turns .main =
          (l₁ ++ l₄) ++ ⟨.store .activePage, p.page⟩ :: (l₃ ++ l') := by
        rw [hlog]
        simp only [List.append_assoc, List.cons_append, List.nil_append]
      obtain ⟨early, late, rfl, hearly, hdeed⟩ := Machine.exists_turn_of_logOf hmain
      refine ⟨call, p, early, late, rfl, ?_, Machine.reply_of_deed? hdeed, hget, hgoes⟩
      refine .intro (l := l₁) (hitems.trans (List.append_assoc _ _ _)) ?_ hbefore hlength hawait
        hprepared
      rw [Machine.logOf_append, hearly, Machine.logOf, Machine.deeds, if_pos rfl, hdeed,
        List.append_assoc]
      rfl

/-! ### The pages that an action uses -/

/-- How a deferred action comes by a page that it uses, by what was done for it so far: the page is
the one that it was prepared with, or was found under a label or as the active page. The actions in
a block come by their pages on their own. -/
inductive Uses (name : String) (p : Prepared) (log : Log) (q : PageId) : Prop
  | own (page : p.page = some q)
  | block (block : name ∈ Action.blockActions)
  | labelled (table : name = "closePage" ∨ name = "switchPage")
      (found : ∃ d ∈ log, d.labelled? = some q)
  | active (login : name = "login") (found : ∃ d ∈ log, d.active? = some q)

/-- Whatever page an action uses after it was started, it comes by it in one of these ways. -/
theorem uses_of_goes (hreg : e.registry = Action.builtinRegistry) {name : String} {p : Prepared}
    (hget : e.registry.get? name = some p.handler) {log : Log} {c : Command}
    {next : c.Reply → Routine (Except ActionError Unit)}
    (hgoes : (e.start p).run.Goes log (.step c next)) (hlog : ∀ d ∈ log, d.AnsweredIn s)
    {q : PageId} (hq : c.page? = some q) : Uses name p log q := by
  have hknown {finds : Deed → Option PageId}
      (h : (e.start p).run.OnSeen s finds fun q ↦ p.page = some q) :
      p.page = some q ∨ ∃ d ∈ log, finds d = some q :=
    (h.goes hgoes hlog).1 q hq
  have hown (h : (e.start p).run.OnSeen s (fun _ ↦ none) fun q ↦ p.page = some q) :
      Uses name p log q := by
    rcases hknown h with hpage | ⟨d, -, hfound⟩
    · exact .own hpage
    · cases hfound
  have huse := Action.pageUse_of_get? hreg hget
  rw [start, dispatch] at hown hknown
  generalize p.handler = h at hown hknown huse
  cases huse with
  | alone keeps => exact hown ((keeps s _ _).routine.onSeen (fun _ ↦ id) nofun)
  | block hblock => exact .block hblock
  | callMethod =>
    refine hown ((Action.callMethod_steering.performing s _ _).routine.onSeen (fun _ ↦ id) ?_)
    rintro x ⟨call, hcall, rfl⟩
    exact performWithin_newPage_onSeen hreg hcall _
  | newPage => exact hown (Action.newPage_onSeen _ _)
  | closePage =>
    rcases hknown (Action.closePage_onSeen _ _) with hpage | hfound
    · exact .own hpage
    · exact .labelled (.inl rfl) hfound
  | switchPage =>
    rcases hknown (Action.switchPage_onSeen _ _) with hpage | hfound
    · exact .own hpage
    · exact .labelled (.inr rfl) hfound
  | login =>
    have hlogin : (Action.login ⟨e.settings, p.page, e.performWithin e.depth, e.patience⟩
        p.params).run.OnSeen s Deed.active? fun q ↦ p.page = some q := by
      refine (Action.login_steering.performing s _ _).routine.onSeen (fun _ ↦ id) ?_
      rintro x ⟨call, hcall, rfl⟩
      exact performed_onSeen hreg hcall _
    rcases hknown hlogin with hpage | hfound
    · exact .own hpage
    · exact .active rfl hfound

/-- The pages that deferred actions use. Whoever has the turn when, a command that is carried out on
a page at a turn of a deferred action belongs to an action that the main sequence has reached at
some turn before. The action was prepared with the page that was active at that turn, and uses this
page; but an action in a block comes by its page on its own, closing a page and switching to one use
the page that was found under a label, and a login also uses a page that has become the active one.
-/
theorem deferred_uses (hreg : e.registry = Action.builtinRegistry) (w : World σ)
    (recipes : List Recipe) (selection : Option String) {turns : List Turn} {n : Nat} {d : Deed}
    {q : PageId}
    (hdeed : ((Machine.start w (e.stages recipes selection)).advanceAll s turns).deed? s (.job n) =
      some d)
    (hq : d.command.page? = some q) :
    ∃ call p early late, turns = early ++ .main :: late ∧
      e.Reaches s (Machine.start w (e.stages recipes selection)) (items recipes selection) early n
        call p ∧
      p.page =
        ((Machine.start w (e.stages recipes selection)).advanceAll s early).world.store.activePage ∧
      Uses call.name p
        (Machine.logOf s (Machine.start w (e.stages recipes selection)) turns (.job n)) q := by
  rw [Machine.deed?] at hdeed
  split at hdeed
  case h_1 j hlookup =>
    obtain ⟨call, p, early, late, hturns, hreaches, hpage, hget, hgoes⟩ := exists_reaches hlookup
    refine ⟨call, p, early, late, hturns, hreaches, hpage, ?_⟩
    obtain ⟨routine, wakeAt⟩ := j
    rw [Machine.deedOf.eq_def] at hdeed
    dsimp only at hdeed hgoes
    split at hdeed
    · cases hdeed
    · cases hdeed
      exact uses_of_goes hreg hget hgoes (fun _ ↦ Machine.answeredIn_of_mem_logOf) hq
    · cases hdeed
  case h_2 => cases hdeed

/-! ### Switching pages beside an action -/

/-- An action that is not waited for, after which another page is opened and switched to. -/
def switchingBeside (call : ActionCall) : Recipe :=
  ⟨"switching", none, [{ call with await := false },
    ⟨"newPage", some [("pageKey", .str "other")], true⟩,
    ⟨"switchPage", some [("pageKey", .str "other")], true⟩]⟩

/-- A rehearsal of the recipe, with its first page opened. -/
def rehearseSwitching (call : ActionCall) : Machine Rehearsal :=
  Machine.start (openFirstPage.run.run Rehearsal.surroundings { store := {}, rest := {} }).2
    (stages { registry := Action.builtinRegistry } [switchingBeside call] none)

/-- A click that is carried out when everything else is done has its own page. -/
theorem deferred_uses_click :
    let m := rehearseSwitching ⟨"click", some [("selector", .str "a")], true⟩
    ∃ d call p early late,
      (m.advanceAll Rehearsal.surroundings (List.replicate 48 .main)).deed? Rehearsal.surroundings
        (.job 0) = some d ∧ d.command.page? = some 0 ∧
      List.replicate 48 .main = early ++ .main :: late ∧
      Reaches { registry := Action.builtinRegistry } Rehearsal.surroundings m
        (items [switchingBeside ⟨"click", some [("selector", .str "a")], true⟩] none) early 0 call
        p ∧
      p.page = (m.advanceAll Rehearsal.surroundings early).world.store.activePage ∧
      Uses call.name p
        (Machine.logOf Rehearsal.surroundings m (List.replicate 48 .main) (.job 0)) 0 := by
  intro m
  have hused : ((m.advanceAll Rehearsal.surroundings (List.replicate 48 .main)).deed?
      Rehearsal.surroundings (.job 0)).bind (·.command.page?) = some 0 := by
    decide +kernel
  obtain ⟨d, hdeed, hq⟩ := Option.bind_eq_some_iff.1 hused
  obtain ⟨call, p, early, late, hturns, hreaches, hpage, huses⟩ :=
    deferred_uses (e := { registry := Action.builtinRegistry }) rfl _ _ _ hdeed hq
  exact ⟨d, call, p, early, late, hdeed, hq, hturns, hreaches, hpage, huses⟩

/-- A login that is prepared while the first page is active goes to its address on another page, to
which was switched meanwhile. -/
theorem login_uses_another_page :
    let m := rehearseSwitching ⟨"login", some [("url", .str "about:blank"),
      ("username", .str "me"), ("password", .str "secret"), ("usernameSelector", .str "#user"),
      ("passwordSelector", .str "#password"), ("submitSelector", .str "#submit")], true⟩
    let after (mains jobs : Nat) := m.advanceAll Rehearsal.surroundings
      (List.replicate mains .main ++ List.replicate jobs (.job 0))
    ((after 25 0).deed? Rehearsal.surroundings .main).bind Deed.active? = some 0 ∧
      (after 26 0).started = 0 ∧ (after 27 0).started = 1 ∧
      ((after 47 10).deed? Rehearsal.surroundings (.job 0)).bind (·.command.page?) = some 1 := by
  decide +kernel

end Engine
end WebRecipe
