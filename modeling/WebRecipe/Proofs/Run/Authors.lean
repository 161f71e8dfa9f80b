import WebRecipe.Proofs.Page.Deferred
import WebRecipe.Proofs.Routine.Footprint
import WebRecipe.Proofs.Routine.Parts

/-!
# What the actions of a run write

A routine announces the actions that it performs, and the one that was announced last is the author
of what is carried out next. What an author may do is said along the tree of commands, whoever else
changes the world meanwhile. Two routines in a row do what they may if the second one does so
whoever is its author, because the first one may have announced anything.

The built-in actions write under five names on their own account: the parameters, the value that is
handed on, the indentation and the two directories. Under any other name only the actions on
variables write, and no action puts out a line as it is. This holds whoever has the turn when, of
all commands that are carried out at a turn, with the action that was announced last by the one who
has the turn as their author.

## Main definitions

* `Log.author`: the author after a log.
* `Routine.Authored`: every command is one that its author may carry out.
* `Command.Proper`: what a command may be, by its author.
* `Engine.Author`: the author of what is carried out at a turn.

## Main results

* `Routine.Authored.goes`: the commands after a log.
* `Routine.MadeOf.authored`: commands that anybody may carry out, and parts.
* `Engine.performWithin_proper`, `Engine.stages_proper`: performing actions, and stages of a run.
* `Engine.proper_of_deed?`: what is carried out at a turn is proper to its author.
-/

namespace WebRecipe

/-! ### Authors -/

variable {σ α β : Type}

/-- The action that was announced last in a log, or else before it. -/
def Log.author (author : Option String) (log : Log) : Option String :=
  log.foldl (fun author d ↦ d.command.latest author) author

theorem Log.author_append (author : Option String) (l l' : Log) :
    Log.author author (l ++ l') = Log.author (Log.author author l) l' :=
  List.foldl_append

/-- All commands that a routine may carry out are ones that their author may, whatever the world is
like before each of them. -/
def Routine.Authored (s : Surroundings σ) (may : Option String → Command → Prop) :
    Option String → Routine α → Prop
  | _, .done _ => True
  | _, .unfinished => True
  | author, .step c next =>
    may author c ∧ ∀ w : World σ, Authored s may (c.latest author) (next (w.answer s c).1)

namespace Routine

variable {s : Surroundings σ} {may : Option String → Command → Prop} {author : Option String}

namespace Authored

theorem bind {r : Routine α} {f : α → Routine β} (h : r.Authored s may author)
    (hf : ∀ a author, (f a).Authored s may author) : (r >>= f).Authored s may author := by
  induction r generalizing author with
  | done a => exact hf a author
  | unfinished => trivial
  | step c next ih => exact ⟨h.1, fun w ↦ ih _ (h.2 w)⟩

/-- Two actions in a row. -/
theorem run_bind {x : Action α} {f : α → Action β} (h : x.run.Authored s may author)
    (hf : ∀ a author, (f a).run.Authored s may author) : (x >>= f).run.Authored s may author := by
  rw [ExceptT.run_bind]
  refine h.bind fun r author ↦ ?_
  cases r with
  | ok a => exact hf a author
  | error e => trivial

/-- What follows a command. -/
theorem command_bind {c : Command} {f : c.Reply → Action β} (h : may author c)
    (hf : ∀ reply, (f reply).run.Authored s may (c.latest author)) :
    (Action.command c >>= f).run.Authored s may author :=
  ⟨h, fun _ ↦ hf _⟩

/-- A routine after a log does what the author may who was announced last. -/
theorem goes {r r' : Routine α} {log : Log} (h : r.Authored s may author)
    (hgoes : r.Goes log r') (hlog : ∀ d ∈ log, d.AnsweredIn s) :
    r'.Authored s may (log.author author) := by
  induction hgoes generalizing author with
  | refl r => exact h
  | @step c next reply log r _ ih =>
    obtain ⟨⟨w, hreply⟩, hlater⟩ := List.forall_mem_cons.1 hlog
    have hnext := h.2 w
    dsimp only at hreply
    rw [← hreply] at hnext
    exact ih hnext hlater

end Authored

/-- A routine that announces nothing does all in the name of one author. -/
theorem Within.authored {bounds : Command → Prop} {post : α → Prop} {r : Routine α}
    (h : r.Within s bounds post) (hbounds : ∀ c, bounds c → c.announced? = none ∧ may author c) :
    r.Authored s may author := by
  induction r with
  | done a => trivial
  | unfinished => trivial
  | step c next ih =>
    obtain ⟨hannounced, hmay⟩ := hbounds c h.1
    have hlatest : c.latest author = author := by rw [Command.latest, hannounced, Option.none_or]
    refine ⟨hmay, fun w ↦ ?_⟩
    rw [hlatest]
    exact ih _ (h.2 w)

/-- What is made of commands that anybody may carry out, and of parts, does what its authors may if
the parts do so. -/
theorem MadeOf.authored {own : Command → Prop} {part : Action Unit → Prop} {post : α → Prop}
    {r : Routine α} (h : r.MadeOf s own part post) (hown : ∀ c author, own c → may author c)
    (hpart : ∀ x, part x → ∀ author, x.run.Authored s may author) (author : Option String) :
    r.Authored s may author := by
  induction h generalizing author with
  | done => trivial
  | unfinished => trivial
  | @step c next hc _ ih => exact ⟨hown c author hc, fun w ↦ ih w _⟩
  | part hx _ ih => exact (hpart _ hx author).bind fun o author ↦ ih o author

end Routine

/-! ### What actions write -/

/-- The names under which actions write on their own account. -/
def Key.ofActions : List String :=
  [Key.params, Key.input, Key.indent, Key.baseDir, Key.currentDir]

/-- A command is proper to its author: it puts out no line as it is, and writes under a name that is
not for all actions only if the author is an action on variables. -/
structure Command.Proper (author : Option String) (c : Command) : Prop where
  unreported : c.reported? = none
  writes : ∀ key, c.written? = some key →
    key ∈ Key.ofActions ∨ ∃ name ∈ variableActions, author = some name

/-- A command that writes nothing, and puts out no line as it is, is proper to everybody. -/
theorem Command.Proper.of_none {author : Option String} {c : Command}
    (hreported : c.reported? = none) (hwritten : c.written? = none) : c.Proper author :=
  ⟨hreported, fun _ h ↦ nomatch hwritten.symm.trans h⟩

/-- Writing under a name that is for all actions is proper to everybody. -/
theorem Command.Proper.of_written {author : Option String} {c : Command} {key : String}
    (hreported : c.reported? = none) (hwritten : c.written? = some key)
    (hkey : key ∈ Key.ofActions) : c.Proper author := by
  refine ⟨hreported, fun k hk ↦ .inl ?_⟩
  cases hwritten.symm.trans hk
  exact hkey

/-- What steers is proper to everybody. -/
theorem Command.Steers.proper {page : Option PageId} {c : Command} (h : c.Steers page)
    (author : Option String) : c.Proper author := by
  cases h with
  | handOn | indentIn | indentOut => exact .of_written rfl rfl (by decide)
  | _ => exact .of_none rfl rfl

/-- What covers the footprint of a built-in action is proper to the action. -/
theorem Footprint.Covers.proper {f : Footprint} {c : Command} {name : String} (h : f.Covers c)
    (hwrites : ∀ key, f.writes key →
      Footprint.touching.writes key ∨ name ∈ variableActions) : c.Proper (some name) where
  unreported := h.unreported
  writes key hkey := by
    rcases hwrites key (h.stores key hkey).2 with hown | hname
    · refine .inl ?_
      rcases hown with rfl | rfl | rfl <;> decide
    · exact .inr ⟨name, hname, rfl⟩

/-! ### Performing actions -/

namespace Action

variable {s : Surroundings σ} {cx : Context}

/-- A built-in action does what is proper to it if what it performs does. -/
theorem Builtin.proper {name : String} {h : Handler} (hbuiltin : Builtin name h)
    (hperform : ∀ call author, (cx.perform call).run.Authored s Command.Proper author)
    (ps : Members) : (h cx ps).run.Authored s Command.Proper (some name) := by
  have hsteering {calls : ActionCall → Prop} {h : Handler} (hh : h.Steering calls) :
      (h cx ps).run.Authored s Command.Proper (some name) := by
    refine (hh s cx ps).routine.authored (fun c author hc ↦ hc.proper author) ?_ _
    rintro x ⟨call, -, rfl⟩ author
    exact hperform call author
  cases hbuiltin with
  | alone alone writes =>
    exact (alone.within s cx ps).routine.authored fun c hc ↦ ⟨hc.unannounced, hc.proper writes⟩
  | ifTrue => exact hsteering (branch_steering _ _)
  | ifElse => exact hsteering (branch_steering _ _)
  | countingLoop => exact hsteering countingLoop_steering
  | itemLoop => exact hsteering itemLoop_steering
  | conditionLoop => exact hsteering conditionLoop_steering
  | callMethod => exact hsteering callMethod_steering
  | login => exact hsteering login_steering

end Action

namespace Engine

variable {e : Engine} {s : Surroundings σ}

/-- Preparing an action is proper to everybody, and makes the action the author of what follows. -/
private theorem prepare_bind_proper {β : Type} {call : ActionCall} {f : Prepared → Action β}
    (hf : ∀ handler params page, e.registry.get? call.name = some handler →
      (f ⟨handler, params, page⟩).run.Authored s Command.Proper (some call.name))
    (author : Option String) :
    (e.prepare call >>= f).run.Authored s Command.Proper author := by
  have hput {params : Json} {author : Option String} :
      (Command.store (.put Key.params params)).Proper author := .of_written rfl rfl (by decide)
  rw [prepare_bind]
  refine .command_bind (.of_none rfl rfl) fun _ ↦ ?_
  rw [Command.latest, Command.announced?_announcement, Option.some_or]
  refine .command_bind hput fun _ ↦ ?_
  refine .command_bind (.of_none rfl rfl) fun resolved ↦ ?_
  refine .command_bind hput fun _ ↦ ?_
  cases hparams : Schema.validate call.name resolved with
  | error err => trivial
  | ok params =>
    refine .command_bind hput fun _ ↦ ?_
    cases hhandler : e.registry.get? call.name with
    | none => trivial
    | some handler =>
      exact .command_bind (.of_none rfl rfl) fun page ↦ hf handler params page hhandler

variable (hreg : e.registry = Action.builtinRegistry)

include hreg

/-- Performing an action is proper to everybody. -/
theorem performWithin_proper (depth : Nat) (call : ActionCall) (author : Option String) :
    (e.performWithin depth call).run.Authored s Command.Proper author := by
  induction depth generalizing call author with
  | zero => trivial
  | succ depth ih =>
    refine prepare_bind_proper (fun handler params page hget ↦ ?_) author
    exact (Action.builtin_of_get? hreg hget).proper ih params

/-- An action that was prepared does what is proper to it. -/
theorem start_proper {call : ActionCall} {p : Prepared}
    (hget : e.registry.get? call.name = some p.handler) :
    (e.start p).run.Authored s Command.Proper (some call.name) :=
  (Action.builtin_of_get? hreg hget).proper (e.performWithin_proper hreg e.depth) p.params

/-- A stage of a run is proper to everybody. -/
theorem stages_proper {recipes : List Recipe} {selection : Option String} {stage : Stage}
    (h : stage ∈ e.stages recipes selection) (author : Option String) :
    stage.run.Authored s Command.Proper author := by
  obtain ⟨r, -, hstage⟩ := List.mem_flatMap.1 h
  rcases List.mem_cons.1 hstage with rfl | hstage
  · refine .command_bind (.of_written rfl rfl (by decide)) fun _ ↦ ?_
    refine .command_bind (.of_none rfl rfl) fun _ ↦ ?_
    refine .run_bind (performWithin_proper hreg _ _ _) fun _ author ↦ ?_
    exact .run_bind (performWithin_proper hreg _ _ _) fun _ _ ↦ trivial
  · obtain ⟨call, -, rfl⟩ := List.mem_map.1 hstage
    rw [stageOf]
    split
    · exact .run_bind (performWithin_proper hreg _ _ _) fun _ _ ↦ trivial
    · refine prepare_bind_proper (fun _ _ _ _ ↦ ?_) author
      trivial

omit hreg

/-! ### Turns -/

/-- The author of what is carried out at a turn after the given ones: the action that was announced
last by the one who has the turn, or else the deferred action itself. -/
inductive Author (e : Engine) (s : Surroundings σ) (m : Machine σ) (is : List Item)
    (turns : List Turn) : Turn → Option String → Prop
  | main : Author e s m is turns .main (Log.author none (Machine.logOf s m turns .main))
  | job {n : Nat} {call : ActionCall} {p : Prepared} {early late : List Turn}
      (split : turns = early ++ .main :: late) (reaches : e.Reaches s m is early n call p) :
      Author e s m is turns (.job n)
        (Log.author (some call.name) (Machine.logOf s m turns (.job n)))

/-- What is carried out next is proper to the author. -/
private theorem proper_of_deedOf {α : Type} {author : Option String} {r : Routine α}
    (h : r.Authored s Command.Proper author) {w : World σ} {wakeAt : Option Nat} {d : Deed}
    (hdeed : Machine.deedOf s w wakeAt r = some d) : d.command.Proper author := by
  rw [Machine.deedOf.eq_def] at hdeed
  split at hdeed
  · cases hdeed
  · cases hdeed
    exact h.1
  · cases hdeed

include hreg

/-- **Whatever is carried out at a turn is proper to its author.** -/
theorem proper_of_deed? (w : World σ) (recipes : List Recipe) (selection : Option String)
    {turns : List Turn} {who : Turn} {d : Deed}
    (hdeed : ((Machine.start w (e.stages recipes selection)).advanceAll s turns).deed? s who =
      some d) :
    ∃ author, e.Author s (Machine.start w (e.stages recipes selection)) (items recipes selection)
      turns who author ∧ d.command.Proper author := by
  rw [Machine.deed?.eq_def] at hdeed
  split at hdeed
  case h_1 =>
    refine ⟨_, .main, ?_⟩
    split at hdeed
    case h_1 current later wakeAt hmain =>
      have hlog : ∀ d ∈ Machine.logOf s (Machine.start w (e.stages recipes selection)) turns .main,
          d.AnsweredIn s := fun _ ↦ Machine.answeredIn_of_mem_logOf
      cases Machine.account s w (e.stages recipes selection) turns with
      | failed hfailed => cases hmain.symm.trans hfailed
      | going _ course =>
        rw [hmain] at course
        cases course with
        | @working before _ stage l l' _ _ _ split hsplit passed goes =>
          rw [hsplit] at hlog ⊢
          have hstage : stage ∈ e.stages recipes selection := by
            rw [split]
            exact List.mem_append_right _ List.mem_cons_self
          rw [Log.author_append]
          exact proper_of_deedOf ((stages_proper hreg hstage _).goes goes
            (List.forall_mem_append.1 hlog).2) hdeed
    case h_2 => cases hdeed
  case h_2 n =>
    split at hdeed
    case h_1 j hlookup =>
      obtain ⟨call, p, early, late, hturns, hreaches, -, hget, hgoes⟩ := exists_reaches hlookup
      refine ⟨_, .job hturns hreaches, ?_⟩
      exact proper_of_deedOf ((start_proper hreg hget).goes hgoes
        fun _ ↦ Machine.answeredIn_of_mem_logOf) hdeed
    case h_2 => cases hdeed

end Engine
end WebRecipe
