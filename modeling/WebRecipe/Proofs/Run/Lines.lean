import WebRecipe.Proofs.Page.Closed
import WebRecipe.Proofs.Run.Authors
import WebRecipe.Rehearsal

/-!
# The lines of a run for a request

A run for a request has an id, and its lines of output are marked with it. The mark is read from the
store for every line, except for the line that reports the failure of the run. So it is the id of
the request until something else is written under its name, which only an action on variables does.

## Main definitions

* `Output.MarkedBy`: a line begins with blanks and the id of a request.
* `Happening.line?`: the line that is put out.
* `Successive`: happenings each of which begins with what the one before has left.
* `Command.Framing`: what is done before and after the turns of a run.
* `Engine.Overwrites`: an action on variables writes under the name of the id.

## Main results

* `Successive.lines_eq`, `Successive.get?_eq`: the lines, and a value that nobody writes.
* `Engine.successive_happeningsBy`: all that happens in a run.
* `Engine.lines_marked`: the lines of a run.
* `Engine.line_marked_otherwise`: a run whose id is overwritten.
-/

namespace WebRecipe

variable {σ α : Type}

/-- A line that belongs to a request: blanks, the id of the request, a colon and a text. -/
def Output.MarkedBy (id line : String) : Prop :=
  ∃ indent text, line = Output.line indent (some id) text

/-! ### Happenings in a row -/

/-- What a world shows of a run: the store, and the lines of output so far. -/
def World.visible (w : World σ) : Store × Array String :=
  (w.store, w.lines)

/-- The line of output that is put out. -/
def Happening.line? (x : Happening σ) : Option String :=
  match x.command with
  | .display text => some (Output.line x.world.store.indent x.world.store.payloadId text)
  | .report line => some line
  | _ => none

/-- One happening after another, each in a world that shows what the one before has left. -/
inductive Successive (s : Surroundings σ) :
    Store × Array String → List (Happening σ) → Store × Array String → Prop
  | nil {v : Store × Array String} : Successive s v [] v
  | cons {x : Happening σ} {xs : List (Happening σ)} {v : Store × Array String}
      (later : Successive s (x.after s).visible xs v) : Successive s x.world.visible (x :: xs) v

namespace Successive

variable {s : Surroundings σ} {v v' v'' : Store × Array String} {xs ys : List (Happening σ)}

theorem append (h : Successive s v xs v') (h' : Successive s v' ys v'') :
    Successive s v (xs ++ ys) v'' := by
  induction h with
  | nil => exact h'
  | cons _ ih => exact .cons (ih h')

theorem split (h : Successive s v (xs ++ ys) v'') :
    ∃ v', Successive s v xs v' ∧ Successive s v' ys v'' := by
  induction xs generalizing v with
  | nil => exact ⟨v, .nil, h⟩
  | cons x xs ih =>
    cases h with
    | cons later =>
      obtain ⟨v', hfirst, hlast⟩ := ih later
      exact ⟨v', .cons hfirst, hlast⟩

/-- A command adds the line that it puts out to the lines. -/
private theorem lines_after (x : Happening σ) :
    (x.after s).lines.toList = x.world.lines.toList ++ x.line?.toList := by
  obtain ⟨w, c⟩ := x
  cases c with
  | display | report => exact Array.toList_push
  | _ => exact (List.append_nil _).symm

/-- The lines that are added are those that are put out, in order. -/
theorem lines_eq (h : Successive s v xs v') :
    v'.2.toList = v.2.toList ++ xs.filterMap Happening.line? := by
  induction h with
  | nil => exact (List.append_nil _).symm
  | @cons x xs v later ih =>
    rw [ih, show (x.after s).visible.2.toList = _ from lines_after x, List.append_assoc]
    cases hline : x.line? <;> simp [hline, World.visible]

/-- A value that nobody writes stays as it is. -/
theorem get?_eq {key : String} (h : Successive s v xs v') (hview : Key.isPageView key = false)
    (hwritten : ∀ y ∈ xs, y.command.written? ≠ some key) : v'.1.get? key = v.1.get? key := by
  induction h with
  | nil => rfl
  | cons _ ih =>
    obtain ⟨hfirst, hlater⟩ := List.forall_mem_cons.1 hwritten
    exact (ih hlater).trans (Command.get?_answer hview hfirst)

end Successive

/-! ### Routines and turns -/

/-- What happens when a routine has the world for itself happens in a row. -/
theorem Routine.successive {s : Surroundings σ} (r : Routine α) (w : World σ) :
    Successive s w.visible (r.happenings s w) (r.run s w).2.visible := by
  induction r generalizing w with
  | done a => exact .nil
  | unfinished => exact .nil
  | step c next ih => exact .cons (x := ⟨w, c⟩) (ih _ _)

/-- What a routine carries out is as allowed. -/
theorem Routine.Within.happenings {s : Surroundings σ} {may : Command → Prop} {post : α → Prop}
    {r : Routine α} (h : r.Within s may post) (w : World σ) :
    ∀ y ∈ r.happenings s w, may y.command := by
  induction r generalizing w with
  | done a => exact nofun
  | unfinished => exact nofun
  | step c next ih => exact List.forall_mem_cons.2 ⟨h.1, ih _ (h.2 w) _⟩

namespace Machine

variable {s : Surroundings σ}

/-- What happens in a sequence of turns happens in a row. -/
theorem successive (m : Machine σ) (turns : List Turn) :
    Successive s m.world.visible (m.happenings s turns) (m.advanceAll s turns).world.visible := by
  induction turns generalizing m with
  | nil => exact .nil
  | cons turn turns ih =>
    have hlater := ih (m.advance s turn)
    obtain ⟨clock, hworld⟩ := m.world_advance (s := s) turn
    rw [hworld] at hlater
    rw [happenings]
    cases hdeed : m.deed? s turn with
    | none =>
      rw [hdeed] at hlater
      exact hlater
    | some d =>
      rw [hdeed] at hlater
      exact .cons (x := ⟨m.world, d.command⟩) hlater

/-- Whatever happens in a sequence of turns is carried out at one of them. -/
theorem exists_turn_of_happenings {m : Machine σ} {turns : List Turn} {y : Happening σ}
    (h : y ∈ m.happenings s turns) :
    ∃ early who late, turns = early ++ who :: late ∧ y.world = (m.advanceAll s early).world ∧
      (m.advanceAll s early).deed? s who = some (y.deed s) := by
  induction turns generalizing m with
  | nil => cases h
  | cons turn turns ih =>
    rcases List.mem_append.1 h with hnow | hlater
    · obtain ⟨d, hdeed, rfl⟩ := Option.map_eq_some_iff.1 (Option.mem_toList.1 hnow)
      refine ⟨[], turn, turns, rfl, rfl, ?_⟩
      rw [deed_of_deed? hdeed]
      exact hdeed
    · obtain ⟨early, who, late, rfl, hworld, hdeed⟩ := ih hlater
      exact ⟨turn :: early, who, late, rfl, hworld, hdeed⟩

end Machine

/-! ### Runs -/

/-- What frames a run leaves the id of the request alone, and reports failures in its name. -/
structure Command.Framing (payloadId : Option String) (c : Command) : Prop where
  unwritten : c.written? ≠ some Key.payloadId
  reports : ∀ line, c.reported? = some line → ∃ message, line = Output.errorLine payloadId message

namespace Engine

variable {e : Engine} {s : Surroundings σ}

/-- What happens in a run happens in a row. -/
theorem successive_happeningsBy (w : World σ) (env : Environment) (recipes : List Recipe)
    (selection payloadId : Option String) (turns : List Turn) :
    Successive s (initialStore env payloadId, w.lines)
      (e.happeningsBy s w env recipes selection payloadId turns)
      (e.runBy s w env recipes selection payloadId turns).2.visible := by
  have hopening := openFirstPage.run.successive (s := s)
    { w with store := initialStore env payloadId }
  rw [happeningsBy, runBy]
  rcases run_openFirstPage s { w with store := initialStore env payloadId } with
    ⟨message, w', hopen⟩ | ⟨w', hopen⟩
  · rw [hopen] at hopening ⊢
    dsimp only
    rw [List.append_nil]
    exact hopening
  · rw [hopen] at hopening ⊢
    have hturns := (Machine.start w' (e.stages recipes selection)).successive (s := s) turns
    dsimp only
    refine hopening.append ?_
    cases ((Machine.start w' (e.stages recipes selection)).advanceAll s turns).outcome? with
    | none =>
      dsimp only
      rw [List.append_nil]
      exact hturns
    | some outcome => exact hturns.append (Routine.successive _ _)

/-- Opening the first page frames a run. -/
private theorem openFirstPage_framing (payloadId : Option String) :
    openFirstPage.run.Within s (·.Framing payloadId) fun _ ↦ True := by
  refine ⟨⟨nofun, nofun⟩, fun w ↦ ?_⟩
  generalize (w.answer s .openPage).1 = reply
  cases reply with
  | error e => trivial
  | ok page => exact ⟨⟨nofun, nofun⟩, fun _ ↦ ⟨⟨nofun, nofun⟩, fun _ ↦ trivial⟩⟩

/-- What is done at the end frames a run. -/
private theorem conclude_framing (payloadId : Option String) (outcome : Except ActionError Unit) :
    (conclude payloadId outcome).Within s (·.Framing payloadId) fun _ ↦ True := by
  have hclosing (pages : List (String × PageId)) :
      (closeAll pages).Within s (·.Framing payloadId) fun _ ↦ True := by
    induction pages with
    | nil => trivial
    | cons entry pages ih => exact ⟨⟨nofun, nofun⟩, fun _ ↦ ih⟩
  have hending : (conclude payloadId (.ok ())).Within s (·.Framing payloadId) fun _ ↦ True := by
    refine ⟨⟨nofun, nofun⟩, fun w ↦ (hclosing _).bind fun _ _ ↦ ?_⟩
    exact ⟨⟨by decide, nofun⟩, fun _ ↦ ⟨⟨nofun, nofun⟩, fun _ ↦ trivial⟩⟩
  cases outcome with
  | ok => exact hending
  | error err =>
    exact ⟨⟨nofun, fun line hline ↦ ⟨err.message, by cases hline; rfl⟩⟩, fun _ ↦ hending⟩

/-- At one of the turns, something is written under the name of the id of the request, on account of
an action on variables. -/
inductive Overwrites (e : Engine) (s : Surroundings σ) (m : Machine σ) (is : List Item)
    (turns : List Turn) (y : Happening σ) : Prop
  | intro {early late : List Turn} {who : Turn} {name : String}
      (split : turns = early ++ who :: late) (world : y.world = (m.advanceAll s early).world)
      (carried : (m.advanceAll s early).deed? s who = some (y.deed s))
      (writes : y.command.written? = some Key.payloadId)
      (author : e.Author s m is early who (some name)) (onVariables : name ∈ variableActions)

/-- Whatever happens in a run reports failures in the name of the request, and writes under the name
of its id on account of an action on variables only. -/
private theorem reports_and_overwrites (hreg : e.registry = Action.builtinRegistry) {w : World σ}
    {env : Environment} {recipes : List Recipe} {selection payloadId : Option String}
    {turns : List Turn} {y : Happening σ}
    (hy : y ∈ e.happeningsBy s w env recipes selection payloadId turns) :
    (∀ line, y.command.reported? = some line →
      ∃ message, line = Output.errorLine payloadId message) ∧
    (y.command.written? = some Key.payloadId →
      e.Overwrites s (e.begun s w env recipes selection payloadId) (items recipes selection)
        turns y) := by
  rw [happeningsBy] at hy
  rcases List.mem_append.1 hy with hopening | hafter
  · have hframing := (openFirstPage_framing payloadId).happenings _ y hopening
    exact ⟨hframing.reports, fun hwrites ↦ absurd hwrites hframing.unwritten⟩
  · rw [begun]
    split at hafter
    case h_1 w' hopen =>
      rw [hopen]
      rcases List.mem_append.1 hafter with hturn | hend
      · obtain ⟨early, who, late, rfl, hworld, hdeed⟩ :=
          Machine.exists_turn_of_happenings hturn
        obtain ⟨author, hauthor, hproper⟩ := proper_of_deed? hreg w' recipes selection hdeed
        refine ⟨fun line hline ↦ (by cases hproper.unreported.symm.trans hline), fun hwrites ↦ ?_⟩
        rcases hproper.writes _ hwrites with hown | ⟨name, hname, rfl⟩
        · exact absurd hown (by decide)
        · exact .intro rfl hworld hdeed hwrites hauthor hname
      · split at hend
        · have hframing := (conclude_framing payloadId _).happenings _ y hend
          exact ⟨hframing.reports, fun hwrites ↦ absurd hwrites hframing.unwritten⟩
        · cases hend
    case h_2 => cases hafter

/-- **The lines of a run for a request.** Whatever the recipes are, what they meet and whose turn it
is when, the lines that a run adds are those that are put out, in order, and each of them is marked
with the id of the request, unless an action on variables has written under the name of the id
before. The line that reports the failure of the run is marked in any case. -/
theorem lines_marked (hreg : e.registry = Action.builtinRegistry) (s : Surroundings σ)
    (w : World σ) (env : Environment) (recipes : List Recipe) (selection : Option String)
    (id : String) :
    (∀ turns,
      (e.runBy s w env recipes selection (some id) turns).2.lines.toList =
        w.lines.toList ++
          (e.happeningsBy s w env recipes selection (some id) turns).filterMap Happening.line? ∧
      ∀ before x later line,
        e.happeningsBy s w env recipes selection (some id) turns = before ++ x :: later →
          x.line? = some line → Output.MarkedBy id line ∨
            x.command.reported? = none ∧
              ∃ y ∈ before, e.Overwrites s (e.begun s w env recipes selection (some id))
                (items recipes selection) turns y) ∧
    ((e.run s w env recipes selection (some id)).1 = none ∨
      ∃ turns, e.run s w env recipes selection (some id) =
        e.runBy s w env recipes selection (some id) turns) := by
  refine ⟨fun turns ↦ ?_, e.run_eq_runBy s w env recipes selection (some id)⟩
  have hrow := e.successive_happeningsBy (s := s) w env recipes selection (some id) turns
  refine ⟨hrow.lines_eq, fun before x later line hsplit hline ↦ ?_⟩
  have hmem {y : Happening σ} (hy : y ∈ before ++ x :: later) :=
    reports_and_overwrites hreg (hsplit ▸ hy)
  rw [hsplit] at hrow
  obtain ⟨v, hbefore, hnow⟩ := hrow.split
  rw [Happening.line?.eq_def] at hline
  split at hline
  case h_1 text hcommand =>
    cases hline
    by_cases hwritten : ∃ y ∈ before, y.command.written? = some Key.payloadId
    · obtain ⟨y, hy, hwrites⟩ := hwritten
      refine .inr ⟨by rw [hcommand]; rfl, y, hy, ?_⟩
      exact (hmem (List.mem_append_left _ hy)).2 hwrites
    · -- Nobody has written under the name of the id, so it is still the one given at the start.
      have hkept : v.1.get? Key.payloadId = (initialStore env (some id)).get? Key.payloadId :=
        hbefore.get?_eq (by decide) fun y hy hwrites ↦ hwritten ⟨y, hy, hwrites⟩
      cases hnow with
      | cons =>
        refine .inl ⟨x.world.store.indent, text, ?_⟩
        rw [show x.world.store.payloadId = some id from
          congrArg (·.bind Json.asStr?) (hkept.trans (Store.get?_put_self (by decide) _))]
  case h_2 reported hcommand =>
    cases hline
    have hx : x ∈ before ++ x :: later := List.mem_append_right _ List.mem_cons_self
    obtain ⟨message, hreport⟩ := (hmem hx).1 line (by rw [hcommand]; rfl)
    exact .inl ⟨0, _, hreport⟩
  case h_3 => cases hline

/-- A variable is set, and a message is put out after it. -/
def settingFirst (key : String) : Recipe :=
  ⟨"setting", none, [⟨"setVariable", some [("key", .str key), ("value", .str "x")], true⟩,
    ⟨"log", some [("message", .str "hi")], true⟩]⟩

/-- All lines of a rehearsal in which a variable of its own is set are marked. -/
theorem lines_marked_settingFirst :
    let e : Engine := { registry := Action.builtinRegistry }
    let w : World Rehearsal := { rest := {} }
    let recipes := [settingFirst "COLOUR"]
    let turns := List.replicate 64 Turn.main
    (e.runBy Rehearsal.surroundings w [] recipes none (some "p-1") turns).1.isSome ∧
      ∀ line ∈ (e.runBy Rehearsal.surroundings w [] recipes none (some "p-1") turns).2.lines,
        Output.MarkedBy "p-1" line := by
  intro e w recipes turns
  have hended : (e.runBy Rehearsal.surroundings w [] recipes none (some "p-1") turns).1.isSome := by
    decide +kernel
  have hunwritten : ∀ key ∈ (e.happeningsBy Rehearsal.surroundings w [] recipes none (some "p-1")
      turns).map (·.command.written?), key ≠ some Key.payloadId := by
    decide +kernel
  obtain ⟨hlines, hmarked⟩ :=
    (lines_marked (e := e) rfl Rehearsal.surroundings w [] recipes none "p-1").1 turns
  refine ⟨hended, fun line hline ↦ ?_⟩
  rw [← Array.mem_toList_iff, hlines] at hline
  obtain ⟨x, hx, hputOut⟩ := List.mem_filterMap.1 ((List.mem_append.1 hline).resolve_left nofun)
  obtain ⟨before, later, hsplit⟩ := List.append_of_mem hx
  rcases hmarked before x later line hsplit hputOut with h | ⟨-, y, hy, hoverwrites⟩
  · exact h
  · obtain ⟨-, -, -, hwrites, -, -⟩ := hoverwrites
    have hmem : y ∈ before ++ x :: later := List.mem_append_left _ hy
    rw [← hsplit] at hmem
    exact absurd hwrites (hunwritten _ (List.mem_map_of_mem hmem))

/-- The line that ends a run is marked with what has overwritten the id of the request. -/
theorem line_marked_otherwise :
    let r := run { registry := Action.builtinRegistry } Rehearsal.surroundings { rest := {} } []
      [settingFirst Key.payloadId] none (some "p-1")
    r.1.isSome ∧ ∃ line ∈ r.2.lines, ¬ Output.MarkedBy "p-1" line := by
  intro r
  have hrun : r.1.isSome ∧ "x: Grabber finished" ∈ r.2.lines := by decide +kernel
  refine ⟨hrun.1, _, hrun.2, ?_⟩
  rintro ⟨indent, text, hline⟩
  have hchars := congrArg String.toList hline
  cases indent with
  | zero => simp [Output.line] at hchars
  | succ indent => simp [Output.line, List.replicate_succ] at hchars

end Engine
end WebRecipe
