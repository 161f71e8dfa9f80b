import Mathlib.Data.List.Induction
import WebRecipe.Proofs.Page.Custody
import WebRecipe.Proofs.Page.Deferred
import WebRecipe.Proofs.Run.Undivided

/-!
# The custody of pages over turns

The main sequence of a run and those beside it share one table of pages. The pages are in custody
over all turns that leave whoever has taken a page alone until he has put it away: a page in hand
was taken at the last turn, and the next turn belongs to the one who has taken it.

## Main definitions

* `Routine.happenings`, `Machine.happenings`: all that happens.
* `NextStep.Stows`: whoever has a page in hand puts it away next.

## Main results

* `Routine.Stows.custody`: the pages are in custody while one works alone.
* `Engine.next_stows`: everybody puts away the pages that he has taken.
* `Engine.custody_of_outcome`: the pages are in custody until everything has ended.
-/

namespace WebRecipe

variable {σ α : Type}

/-! ### Routines on their own -/

namespace Routine

variable {s : Surroundings σ}

/-- What happens when a routine has the world for itself. -/
def happenings (s : Surroundings σ) (w : World σ) : Routine α → List (Happening σ)
  | step c next => ⟨w, c⟩ :: happenings s (w.answer s c).2 (next (w.answer s c).1)
  | _ => []

/-- The pages are in custody while a routine runs that puts away each page. -/
theorem Stows.custody {hand : Option PageId} {r : Routine α} (h : r.Stows s hand) (w : World σ) :
    Custody s hand w.store (r.happenings s w) none (r.run s w).2.store := by
  induction r generalizing hand w with
  | done a =>
    rw [show hand = none from h]
    exact .nil
  | unfinished =>
    rw [show hand = none from h]
    exact .nil
  | step c next ih => exact .cons (x := ⟨w, c⟩) h.1 h.2.1 (ih _ (h.2.2 w) _)

end Routine

/-! ### Turns -/

namespace Machine

variable {s : Surroundings σ} {m : Machine σ}

/-- What happens in a sequence of turns. -/
def happenings (s : Surroundings σ) (m : Machine σ) : List Turn → List (Happening σ)
  | [] => []
  | turn :: turns =>
    ((m.deed? s turn).map fun d ↦ ⟨m.world, d.command⟩).toList ++
      happenings s (m.advance s turn) turns

/-- What is carried out at a turn happens in the world as it is then. -/
theorem deed_of_deed? {turn : Turn} {d : Deed} (h : m.deed? s turn = some d) :
    Happening.deed s ⟨m.world, d.command⟩ = d :=
  congrArg (Deed.mk d.command) (reply_of_deed? h).symm

/-- What happens at one more turn comes last. -/
theorem happenings_concat (turns : List Turn) (turn : Turn) :
    m.happenings s (turns ++ [turn]) = m.happenings s turns ++
      (((m.advanceAll s turns).deed? s turn).map fun d ↦
        (⟨(m.advanceAll s turns).world, d.command⟩ : Happening σ)).toList := by
  induction turns generalizing m with
  | nil => exact List.append_nil _
  | cons t turns ih =>
    rw [List.cons_append, happenings, happenings, ih, List.append_assoc]
    rfl

/-- A run is not over as long as somebody has a command to carry out, if those beside the main
sequence are dropped when it fails. -/
theorem outcome?_eq_none_of_command {who : Turn} {c : Command} (h : m.next who = .command c)
    (hdropped : ∀ e, m.main = .failed e → m.jobs = []) : m.outcome? = none := by
  rw [outcome?]
  split
  case h_1 e hmain =>
    cases who with
    | main => rw [next, hmain] at h; cases h
    | job n => rw [next, hdropped e hmain] at h; cases h
  case h_2 hmain =>
    cases who with
    | main => rw [next, hmain] at h; cases h
    | job n =>
      split
      case isTrue hjobs => rw [next, List.isEmpty_iff.1 hjobs] at h; cases h
      case isFalse => rfl
  case h_3 => rfl

end Machine

/-! ### Custody over turns -/

/-- The turn does not pass on when somebody takes a page. -/
theorem Deed.Takes.goesOn {d : Deed} (h : d.Takes) : Machine.pauses d.command = false := by
  obtain ⟨p, hp⟩ := h
  obtain ⟨c, reply⟩ := d
  cases c with
  | openPage => rfl
  | store a => rfl
  | _ => cases hp

/-- What somebody does next who may have a page in hand: he puts it away with his next command, and
neither ends nor gets stuck before. -/
def NextStep.Stows (hand : Option PageId) : NextStep → Prop
  | .absent => True
  | .command c => (∀ p ∈ hand, c.PutsAway p) ∧ c ≠ .store .takePages
  | _ => hand = none

/-- A routine that puts away each page does so next. -/
theorem Routine.Stows.nextOf {s : Surroundings σ} {hand : Option PageId} {r : Routine α}
    (h : r.Stows s hand) : (Machine.nextOf r).Stows hand := by
  cases r with
  | done => exact h
  | unfinished => exact h
  | step => exact ⟨h.1, h.2.1⟩

namespace Log

/-- Who had nothing in hand has in hand what he has taken since. -/
theorem hand_append_of_eq_none {l : Log} (h : l.hand = none) (l' : Log) :
    hand (l ++ l') = l'.hand := by
  rw [hand, List.getLast?_append]
  cases hlast : l'.getLast? with
  | some d => rw [hand, hlast]; rfl
  | none => rw [Option.none_or, hand, hlast]; exact h

theorem hand_concat (l : Log) (d : Deed) : hand (l ++ [d]) = d.taken? := by
  rw [hand, List.getLast?_concat]
  rfl

end Log

namespace Engine

variable {e : Engine} {s : Surroundings σ} (hreg : e.registry = Action.builtinRegistry)

include hreg

/-- Nobody has a page in hand who has passed stages of a run. -/
private theorem hand_of_passed {recipes : List Recipe} {selection : Option String}
    {stages : List Stage} {log : Log} {started : List (Action Unit)}
    (h : Machine.Passed stages log started)
    (hstages : ∀ stage ∈ stages, stage ∈ e.stages recipes selection)
    (hlog : ∀ d ∈ log, d.AnsweredIn s) : log.hand = none := by
  induction h with
  | nil => rfl
  | @cons stage stages l l' _ _ hends _ ih =>
    obtain ⟨hstage, hlater⟩ := List.forall_mem_cons.1 hstages
    obtain ⟨hfirst, hrest⟩ := List.forall_mem_append.1 hlog
    have hdone := (stages_stow (s := s) hreg hstage).goes hends hfirst
    rw [Log.hand_append_of_eq_none hdone]
    exact ih hlater hrest

/-- Whoever has the turn when, everybody puts away each page that he has taken. -/
theorem next_stows (w : World σ) (recipes : List Recipe) (selection : Option String)
    (turns : List Turn) (who : Turn) :
    (((Machine.start w (e.stages recipes selection)).advanceAll s turns).next who).Stows
      (Machine.logOf s (Machine.start w (e.stages recipes selection)) turns who).hand := by
  rw [Machine.next.eq_def]
  split
  case h_1 =>
    have hlog : ∀ d ∈ Machine.logOf s (Machine.start w (e.stages recipes selection)) turns .main,
        d.AnsweredIn s := fun _ ↦ Machine.answeredIn_of_mem_logOf
    split
    case h_1 current later wakeAt hmain =>
      cases Machine.account s w (e.stages recipes selection) turns with
      | failed hfailed => cases hmain.symm.trans hfailed
      | going _ course =>
        rw [hmain] at course
        cases course with
        | @working before _ stage l l' _ _ _ split hsplit passed goes =>
          rw [hsplit] at hlog ⊢
          obtain ⟨hfirst, hrest⟩ := List.forall_mem_append.1 hlog
          have hstage : ∀ x ∈ before ++ stage :: later, x ∈ e.stages recipes selection := by
            rw [split]
            exact fun _ ↦ id
          -- the stages before this one have left nothing in hand
          rw [Log.hand_append_of_eq_none (hand_of_passed hreg passed
            (fun x hx ↦ hstage x (List.mem_append_left _ hx)) hfirst)]
          exact ((stages_stow hreg (hstage stage (List.mem_append_right _ List.mem_cons_self))).goes
            goes hrest).nextOf
    case h_2 => trivial
  case h_2 n =>
    split
    case h_1 j hlookup =>
      obtain ⟨call, p, early, late, -, -, -, hget, hgoes⟩ := exists_reaches hlookup
      exact ((start_stows hreg hget).goes hgoes fun _ ↦ Machine.answeredIn_of_mem_logOf).nextOf
    case h_2 => trivial

/-- Whoever has taken a page is about to put it away. -/
private theorem puts_of_taken {w : World σ} {recipes : List Recipe} {selection : Option String}
    {turns : List Turn} {who : Turn} {d : Deed} {p : PageId}
    (hdeed : ((Machine.start w (e.stages recipes selection)).advanceAll s turns).deed? s who =
      some d)
    (hp : d.taken? = some p) :
    ∃ c, c.PutsAway p ∧
      ((Machine.start w (e.stages recipes selection)).advanceAll s (turns ++ [who])).view who =
        (none, .command c) := by
  have hstows := next_stows hreg (s := s) w recipes selection (turns ++ [who]) who
  generalize Machine.start w (e.stages recipes selection) = m at hdeed hstows ⊢
  rw [Machine.logOf_append, Machine.logOf, Machine.deeds, if_pos rfl, hdeed, Machine.logOf,
    List.append_nil, Option.toList_some, Log.hand_concat, hp, Machine.advanceAll_concat,
    ← Machine.view_snd] at hstows
  obtain ⟨x, hx, hview⟩ := Machine.view_advance_of_command (s := s) (Machine.view_of_deed? hdeed)
  have hawake : (Machine.reply s (m.advanceAll s turns).world d.command).2.2 = none := by
    refine Machine.reply_snd_of_not_pauses fun ms hc ↦ ?_
    obtain ⟨c, reply⟩ := d
    cases hc
    cases hp
  rw [hview] at hstows
  rw [Machine.advanceAll_concat, hview, hawake]
  cases x with
  | absent => exact absurd rfl hx
  | stuck => cases hstows
  | result => cases hstows
  | command c => exact ⟨c, hstows.1 p rfl, rfl⟩

/-- Whoever has the turn when, the pages are in custody, and a page that is in somebody's hand was
taken at the last turn, provided that somebody who has taken a page has the next turn as well. -/
private theorem custody_of_undivided (w : World σ) (recipes : List Recipe)
    (selection : Option String) {turns : List Turn}
    (h : Machine.Undivided s Deed.Takes
      (Machine.start w (e.stages recipes selection)) turns) :
    ∃ hand, Custody s none w.store
        ((Machine.start w (e.stages recipes selection)).happenings s turns) hand
        ((Machine.start w (e.stages recipes selection)).advanceAll s turns).world.store ∧
      ∀ p ∈ hand, ∃ before who d, turns = before ++ [who] ∧
        ((Machine.start w (e.stages recipes selection)).advanceAll s before).deed? s who = some d ∧
          d.taken? = some p := by
  induction turns using List.reverseRecOn with
  | nil => exact ⟨none, .nil, nofun⟩
  | append_singleton turns turn ih =>
    obtain ⟨hand, hcustody, hhand⟩ := ih h.of_concat
    -- a page in hand was taken at the turn before, so this turn belongs to the same one
    have hview {p : PageId} (hp : p ∈ hand) : ∃ c, c.PutsAway p ∧
        ((Machine.start w (e.stages recipes selection)).advanceAll s turns).view turn =
          (none, .command c) := by
      obtain ⟨before, who, d, rfl, hdeed, htaken⟩ := hhand p hp
      obtain rfl : turn = who :=
        h before who turn [] d (List.append_assoc _ _ _) hdeed ⟨p, htaken⟩
      exact puts_of_taken hreg hdeed htaken
    have hnext := next_stows hreg (s := s) w recipes selection turns turn
    rw [← Machine.view_snd] at hnext
    rw [Machine.happenings_concat, Machine.advanceAll_concat, Machine.store_advance]
    cases hdeed :
      ((Machine.start w (e.stages recipes selection)).advanceAll s turns).deed? s turn with
    | none =>
      cases hand with
      | none =>
        rw [Option.map_none, Option.toList_none, List.append_nil]
        exact ⟨none, hcustody, nofun⟩
      | some p =>
        obtain ⟨c, -, hcommand⟩ := hview rfl
        obtain ⟨d, hd, -⟩ := Machine.exists_deed?_iff (s := s) |>.2 hcommand
        cases hdeed.symm.trans hd
    | some d =>
      rw [Machine.view_of_deed? hdeed] at hview hnext
      have hputs : ∀ p ∈ hand, d.command.PutsAway p := by
        intro p hp
        obtain ⟨c, hc, hcommand⟩ := hview hp
        cases hcommand
        exact hc
      refine ⟨d.taken?, ?_, fun p hp ↦ ⟨turns, turn, d, rfl, hdeed, hp⟩⟩
      have hconcat := Custody.concat (x := ⟨_, d.command⟩) hcustody hputs hnext.2
      rw [Machine.deed_of_deed? hdeed] at hconcat
      exact hconcat

/-- When everything has ended, nobody has a page in hand. -/
theorem custody_of_outcome {w : World σ} {recipes : List Recipe} {selection : Option String}
    {turns : List Turn} {outcome : Except ActionError Unit}
    (h : Machine.Undivided s Deed.Takes (Machine.start w (e.stages recipes selection)) turns)
    (houtcome : ((Machine.start w (e.stages recipes selection)).advanceAll s turns).outcome? =
      some outcome) :
    Custody s none w.store ((Machine.start w (e.stages recipes selection)).happenings s turns) none
      ((Machine.start w (e.stages recipes selection)).advanceAll s turns).world.store := by
  obtain ⟨hand, hcustody, hhand⟩ := custody_of_undivided hreg w recipes selection h
  cases hand with
  | none => exact hcustody
  | some p =>
    obtain ⟨before, who, d, rfl, hdeed, htaken⟩ := hhand p rfl
    obtain ⟨c, -, hview⟩ := puts_of_taken hreg hdeed htaken
    have hnone := Machine.outcome?_eq_none_of_command
      ((Machine.view_snd _ who).symm.trans (congrArg Prod.snd hview)) fun err hfailed ↦ by
        cases Machine.account s w (e.stages recipes selection) (before ++ [who]) with
        | failed _ _ _ dropped => exact dropped
        | going unfailed => exact absurd hfailed (unfailed err)
    cases hnone.symm.trans houtcome

end Engine

end WebRecipe
