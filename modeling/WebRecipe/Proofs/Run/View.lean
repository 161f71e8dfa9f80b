import WebRecipe.Proofs.Run.Step
import WebRecipe.Run.Schedule

/-!
# What a schedule sees of a machine

A schedule asks of everybody whether he sleeps, and what he does next. What somebody does at his
turn changes this for himself, and for nobody else, unless it ends the run.

## Main definitions

* `Machine.view`: what a schedule sees of somebody.
* `Machine.Known`, `Machine.Numbered`: who is there, or has been there.
* `Machine.Resting`: somebody sleeps, or is not there.
* `Machine.OwnTurn`: what is seen of somebody before and after his turn.

## Main results

* `Machine.exists_deed?_iff`: what is carried out at a turn is what was seen.
* `Machine.view_advance_of_asleep`, `Machine.view_advance_of_command`,
  `Machine.view_advance_of_result`: what is seen of somebody after his turn.
* `Machine.view_advance_of_ne`: what is seen of all others.
-/

namespace WebRecipe

namespace Machine

variable {σ : Type} {s : Surroundings σ} {m : Machine σ}

/-! ### Asleep or awake -/

/-- When somebody is woken, if it sleeps, and what it does next. -/
def view (m : Machine σ) : Turn → Option Nat × NextStep
  | .main =>
    match m.main with
    | .working current _ wakeAt => (wakeAt, nextOf current)
    | _ => (none, .absent)
  | .job number =>
    match m.jobs.lookup number with
    | some j => (j.wakeAt, nextOf j.routine)
    | none => (none, .absent)

/-- Whoever is there has something next. -/
theorem nextOf_ne_absent {α : Type} (r : Routine α) : nextOf r ≠ .absent := by
  cases r <;> exact nofun

theorem view_main {r : Routine (Except ActionError (Option (Action Unit)))} {later : List Stage}
    {wakeAt : Option Nat} (h : m.main = .working r later wakeAt) :
    m.view .main = (wakeAt, nextOf r) := by
  rw [view, h]

theorem view_job {n : Nat} {j : Job} (h : m.jobs.lookup n = some j) :
    m.view (.job n) = (j.wakeAt, nextOf j.routine) := by
  rw [view, h]

theorem view_job_eq_absent_iff {n : Nat} :
    m.view (.job n) = (none, .absent) ↔ m.jobs.lookup n = none := by
  cases hjob : m.jobs.lookup n with
  | none => exact ⟨fun _ ↦ rfl, fun _ ↦ by rw [view, hjob]⟩
  | some j =>
    rw [view_job hjob]
    exact ⟨fun h ↦ absurd (congrArg Prod.snd h) (nextOf_ne_absent j.routine), nofun⟩

theorem view_snd (m : Machine σ) (who : Turn) : (m.view who).2 = m.next who := by
  cases who with
  | main => rw [view, next]; cases m.main <;> rfl
  | job n => rw [view, next]; cases m.jobs.lookup n <;> rfl

private theorem exists_deedOf_iff {α : Type} {w : World σ} {wakeAt : Option Nat} {r : Routine α}
    {c : Command} :
    (∃ d, deedOf s w wakeAt r = some d ∧ d.command = c) ↔
      (wakeAt, nextOf r) = (none, .command c) := by
  constructor
  · rintro ⟨d, hdeed, rfl⟩
    rw [deedOf.eq_def] at hdeed
    split at hdeed
    · cases hdeed
    · cases hdeed
      rfl
    · cases hdeed
  · intro h
    obtain ⟨rfl, hcommand⟩ := Prod.mk.inj h
    cases r with
    | step c' next =>
      cases hcommand
      exact ⟨_, rfl, rfl⟩
    | done => cases hcommand
    | unfinished => cases hcommand

/-- What is carried out at the turn of somebody who is awake is the command that he has next, if he
has one. -/
theorem exists_deed?_iff {who : Turn} {c : Command} :
    (∃ d, m.deed? s who = some d ∧ d.command = c) ↔ m.view who = (none, .command c) := by
  have habsent : (∃ d, (none : Option Deed) = some d ∧ d.command = c) ↔
      ((none, .absent) : Option Nat × NextStep) = (none, .command c) := by
    constructor
    · rintro ⟨d, hdeed, -⟩
      cases hdeed
    · intro h
      cases h
  cases who with
  | main =>
    rw [view]
    simp only [deed?]
    cases m.main with
    | working current later wakeAt => exact exists_deedOf_iff
    | _ => exact habsent
  | job n =>
    rw [view]
    simp only [deed?]
    cases m.jobs.lookup n with
    | none => exact habsent
    | some j => exact exists_deedOf_iff

/-- Nothing is carried out for somebody who sleeps, or has no command next. -/
theorem view_of_deed? {who : Turn} {d : Deed} (h : m.deed? s who = some d) :
    m.view who = (none, .command d.command) :=
  exists_deed?_iff.1 ⟨d, h, rfl⟩

/-! ### The table of jobs -/

theorem lookup_setJob_self {jobs : List (Nat × Job)} {n : Nat} {j j' : Job}
    (h : jobs.lookup n = some j) : (setJob n j' jobs).lookup n = some j' := by
  induction jobs with
  | nil => cases h
  | cons entry jobs ih =>
    obtain ⟨k, i⟩ := entry
    rw [setJob, List.map_cons]
    by_cases hk : k = n
    · rw [if_pos (beq_iff_eq.2 hk), List.lookup_cons_self]
    · have hnk : (n == k) = false := beq_eq_false_iff_ne.2 (Ne.symm hk)
      rw [List.lookup_cons, hnk] at h
      rw [if_neg (mt beq_iff_eq.1 hk), List.lookup_cons, hnk]
      exact ih h

theorem lookup_setJob_of_ne {n k : Nat} {j : Job} (h : n ≠ k) (jobs : List (Nat × Job)) :
    (setJob k j jobs).lookup n = jobs.lookup n := by
  induction jobs with
  | nil => rfl
  | cons entry jobs ih =>
    obtain ⟨l, i⟩ := entry
    rw [setJob, List.map_cons]
    by_cases hl : l = k
    · have hnl : (n == l) = false := beq_eq_false_iff_ne.2 (hl ▸ h)
      rw [if_pos (beq_iff_eq.2 hl), List.lookup_cons, List.lookup_cons, hnl,
        beq_eq_false_iff_ne.2 h]
      exact ih
    · rw [if_neg (mt beq_iff_eq.1 hl), List.lookup_cons, List.lookup_cons]
      split
      · rfl
      · exact ih

theorem lookup_dropJob_self (n : Nat) (jobs : List (Nat × Job)) :
    (dropJob n jobs).lookup n = none := by
  rw [List.lookup_eq_none_iff]
  intro entry hentry
  exact bne_comm.trans (List.mem_filter.1 hentry).2

theorem lookup_dropJob_of_ne {n k : Nat} (h : n ≠ k) (jobs : List (Nat × Job)) :
    (dropJob k jobs).lookup n = jobs.lookup n := by
  induction jobs with
  | nil => rfl
  | cons entry jobs ih =>
    obtain ⟨l, i⟩ := entry
    rw [dropJob, List.filter_cons, List.lookup_cons]
    by_cases hl : l = k
    · rw [if_neg (by simp [hl]), beq_eq_false_iff_ne.2 (hl ▸ h)]
      exact ih
    · rw [if_pos (by simp [hl]), List.lookup_cons]
      split
      · rfl
      · exact ih

/-! ### What a turn changes -/

/-- What is seen of somebody before and after his turn. -/
inductive OwnTurn (s : Surroundings σ) (m : Machine σ) :
    Option Nat × NextStep → Option Nat × NextStep → Prop
  | absent : OwnTurn s m (none, .absent) (none, .absent)
  | stuck : OwnTurn s m (none, .stuck) (none, .stuck)
  | wakes {time : Nat} {x : NextStep} (present : x ≠ .absent) : OwnTurn s m (some time, x) (none, x)
  | ends {x : NextStep} : OwnTurn s m (none, .result) (none, x)
  | goesOn {c : Command} {x : NextStep} (present : x ≠ .absent) :
      OwnTurn s m (none, .command c) ((reply s m.world c).2.2, x)

/-- What is seen of somebody after his turn follows from what was seen before. -/
theorem ownTurn (s : Surroundings σ) (m : Machine σ) (who : Turn) :
    OwnTurn s m (m.view who) ((m.advance s who).view who) := by
  cases who with
  | main =>
    have habsent (h : m.view .main = (none, .absent)) :
        OwnTurn s m (m.view .main) (m.view .main) := by
      rw [h]
      exact .absent
    have hstep := m.mainStep s
    rw [advance]
    generalize m.deed? s .main = d, m.stepMain s = m' at hstep ⊢
    cases hstep with
    | finished main => exact habsent (by rw [view, main])
    | failed main => exact habsent (by rw [view, main])
    | stuck main =>
      rw [view_main main]
      exact .stuck
    | wakes main =>
      rw [view_main main]
      exact .wakes (nextOf_ne_absent _)
    | fails main =>
      rw [view_main main]
      exact .ends
    | @passes later main =>
      rw [view_main main]
      cases later <;> exact .ends
    | @starts _ later main =>
      rw [view_main main]
      cases later <;> exact .ends
    | goesOn main =>
      rw [view_main main]
      exact .goesOn (nextOf_ne_absent _)
  | job n =>
    have hstep := m.jobStep s n
    rw [advance]
    generalize m.deed? s (.job n) = d, m.stepJob s n = m' at hstep ⊢
    cases hstep with
    | absent job =>
      rw [view_job_eq_absent_iff.2 job]
      exact .absent
    | stuck job =>
      rw [view_job job]
      exact .stuck
    | wakes job =>
      rw [view_job job, view_job (lookup_setJob_self job)]
      exact .wakes (nextOf_ne_absent _)
    | ends job =>
      rw [view_job job, view_job_eq_absent_iff.2 (lookup_dropJob_self n m.jobs)]
      exact .ends
    | goesOn job =>
      rw [view_job job, view_job (lookup_setJob_self job)]
      exact .goesOn (nextOf_ne_absent _)

/-- Somebody who sleeps is woken at his turn. -/
theorem view_advance_of_asleep {who : Turn} {time : Nat} {x : NextStep}
    (h : m.view who = (some time, x)) : (m.advance s who).view who = (none, x) := by
  have hturn := m.ownTurn s who
  rw [h] at hturn
  generalize (m.advance s who).view who = after at hturn ⊢
  cases hturn with
  | wakes => rfl

/-- Somebody who is awake and has a command next goes on, and sleeps if the command says so. -/
theorem view_advance_of_command {who : Turn} {c : Command} (h : m.view who = (none, .command c)) :
    ∃ x, x ≠ .absent ∧ (m.advance s who).view who = ((reply s m.world c).2.2, x) := by
  have hturn := m.ownTurn s who
  rw [h] at hturn
  generalize (m.advance s who).view who = after at hturn ⊢
  cases hturn with
  | goesOn present => exact ⟨_, present, rfl⟩

/-- Somebody who has come to a result is awake after it, if he is still there. -/
theorem view_advance_of_result {who : Turn} (h : m.view who = (none, .result)) :
    ((m.advance s who).view who).1 = none := by
  have hturn := m.ownTurn s who
  rw [h] at hturn
  generalize (m.advance s who).view who = after at hturn ⊢
  cases hturn with
  | ends => rfl

/-- Nothing happens at the turn of somebody who is not there. -/
theorem advance_of_absent {who : Turn} (h : m.next who = .absent) : m.advance s who = m := by
  cases who with
  | main =>
    rw [advance, stepMain]
    rcases hmain : m.main with ⟨current, later, wakeAt⟩ | _ | e
    · rw [next, hmain] at h
      exact absurd h (nextOf_ne_absent current)
    · rfl
    · rfl
  | job n =>
    rw [advance, stepJob]
    cases hjob : m.jobs.lookup n with
    | none => rfl
    | some j =>
      rw [next, hjob] at h
      exact absurd h (nextOf_ne_absent j.routine)

/-- Somebody is the main sequence, or was started. -/
def Known (m : Machine σ) : Turn → Prop
  | .main => True
  | .job n => n < m.started

/-- A turn of somebody beside the main sequence leaves alone the main sequence and all others. -/
private theorem view_stepJob_of_ne {who : Turn} {k : Nat} (h : who ≠ .job k) :
    (m.stepJob s k).view who = m.view who := by
  have hview {m' : Machine σ} (hmain : m'.main = m.main)
      (hjobs : ∀ n ≠ k, m'.jobs.lookup n = m.jobs.lookup n) : m'.view who = m.view who := by
    cases who with
    | main => rw [view, view, hmain]
    | job n => rw [view, view, hjobs n fun hn ↦ h (hn ▸ rfl)]
  have hstep := m.jobStep s k
  generalize m.deed? s (.job k) = d, m.stepJob s k = m' at hstep ⊢
  cases hstep with
  | absent => rfl
  | stuck => rfl
  | wakes => exact hview rfl fun n hn ↦ lookup_setJob_of_ne hn _
  | ends => exact hview rfl fun n hn ↦ lookup_dropJob_of_ne hn _
  | goesOn => exact hview rfl fun n hn ↦ lookup_setJob_of_ne hn _

/-- A turn of the main sequence leaves alone whoever is beside it, unless it fails. -/
private theorem view_stepMain_job {n : Nat} (hn : n < m.started ∨ (m.stepMain s).started ≤ n) :
    (m.stepMain s).view (.job n) = m.view (.job n) ∨
      (m.stepMain s).view (.job n) = (none, .absent) := by
  have hstep := m.mainStep s
  generalize m.deed? s .main = d, m.stepMain s = m' at hstep hn ⊢
  cases hstep with
  | fails => exact .inr rfl
  | starts =>
    refine .inl ?_
    have hne : n ≠ m.started := hn.elim Nat.ne_of_lt Nat.ne_of_gt
    have hlater (j : Job) : List.lookup n [(m.started, j)] = none := by
      rw [List.lookup_cons, beq_eq_false_iff_ne.2 hne]
      rfl
    rw [view, view, List.lookup_append, hlater, Option.or_none]
  | _ => exact .inl rfl

/-- A turn of somebody leaves alone all others, unless it ends the run. -/
theorem view_advance_of_ne {who turn : Turn} (hknown : m.Known who) (h : who ≠ turn) :
    (m.advance s turn).view who = m.view who ∨ (m.advance s turn).view who = (none, .absent) := by
  cases turn with
  | job k => exact .inl (view_stepJob_of_ne h)
  | main =>
    cases who with
    | main => exact absurd rfl h
    | job n => exact view_stepMain_job (.inl hknown)

/-- Nobody is there under a number that was not given yet. -/
def Numbered (m : Machine σ) : Prop :=
  ∀ n, m.started ≤ n → m.view (.job n) = (none, .absent)

theorem Numbered.start (w : World σ) (stages : List Stage) : Numbered (Machine.start w stages) :=
  fun _ _ ↦ rfl

theorem Numbered.advance (h : m.Numbered) (turn : Turn) : (m.advance s turn).Numbered := by
  intro n hn
  have habsent := h n (Nat.le_trans (started_le_advance m turn) hn)
  cases turn with
  | main =>
    rcases view_stepMain_job (.inr hn) with hsame | hdropped
    · exact hsame.trans habsent
    · exact hdropped
  | job k =>
    by_cases hk : n = k
    · subst hk
      rw [advance_of_absent ((m.view_snd (.job n)).symm.trans (congrArg Prod.snd habsent))]
      exact habsent
    · exact (view_stepJob_of_ne fun hjob ↦ hk (Turn.job.inj hjob)).trans habsent

/-- Whoever is started is awake. -/
theorem Numbered.view_started (h : m.Numbered) (turn : Turn) :
    ((m.advance s turn).view (.job m.started)).1 = none := by
  have habsent := h m.started (Nat.le_refl _)
  cases turn with
  | job k =>
    by_cases hk : m.started = k
    · rw [Machine.advance, ← hk]
      have hstep := (m.view_snd _).symm.trans (congrArg Prod.snd habsent)
      rw [show m.stepJob s m.started = m from advance_of_absent hstep, habsent]
    · rw [Machine.advance, view_stepJob_of_ne fun hjob ↦ hk (Turn.job.inj hjob), habsent]
  | main =>
    have hstep := m.mainStep s
    rw [Machine.advance]
    generalize m.deed? s .main = d, m.stepMain s = m' at hstep ⊢
    cases hstep with
    | fails => rfl
    | starts =>
      rw [view_job_eq_absent_iff] at habsent
      rw [view, List.lookup_append, habsent, List.lookup_cons_self]
      rfl
    | _ => exact congrArg Prod.fst habsent

theorem Known.advance {who : Turn} (h : m.Known who) (turn : Turn) :
    (m.advance s turn).Known who := by
  cases who with
  | main => trivial
  | job n => exact Nat.lt_of_lt_of_le h (started_le_advance m turn)

/-- Somebody sleeps, or is not there. -/
def Resting (m : Machine σ) (who : Turn) : Prop :=
  (m.view who).1 = none → (m.view who).2 = .absent

namespace Resting

variable {who : Turn} (h : m.Resting who)

include h

/-- Nothing is carried out for somebody who rests. -/
theorem deed?_eq_none : m.deed? s who = none := by
  cases hdeed : m.deed? s who with
  | none => rfl
  | some d =>
    rw [Resting, view_of_deed? hdeed] at h
    exact nomatch h rfl

/-- Somebody who rests is awake after his turn. -/
theorem view_advance : ((m.advance s who).view who).1 = none := by
  cases htime : (m.view who).1 with
  | some time => rw [view_advance_of_asleep (Prod.ext htime rfl)]
  | none =>
    rw [advance_of_absent ((m.view_snd who).symm.trans (h htime))]
    exact htime

/-- Somebody goes on resting as long as others have the turn. -/
theorem advance_of_ne {turn : Turn} (hknown : m.Known who) (hne : who ≠ turn) :
    (m.advance s turn).Resting who := by
  rcases view_advance_of_ne (s := s) hknown hne with hsame | hdropped
  · rw [Resting, hsame]
    exact h
  · rw [Resting, hdropped]
    exact fun _ ↦ rfl

end Resting

/-- Turns of others leave somebody alone, unless one of them ends the run. -/
theorem view_advanceAll_of_not_mem {turns : List Turn} {who : Turn} (hknown : m.Known who)
    (h : who ∉ turns) :
    (m.advanceAll s turns).view who = m.view who ∨
      (m.advanceAll s turns).view who = (none, .absent) := by
  induction turns generalizing m with
  | nil => exact .inl rfl
  | cons turn turns ih =>
    obtain ⟨hturn, hturns⟩ := List.ne_and_not_mem_of_not_mem_cons h
    rcases ih (hknown.advance (s := s) turn) hturns with hlater | hdropped
    · rcases view_advance_of_ne (s := s) hknown hturn with hsame | hdropped
      · exact .inl (hlater.trans hsame)
      · exact .inr (hlater.trans hdropped)
    · exact .inr hdropped

theorem Known.advanceAll {who : Turn} (h : m.Known who) (turns : List Turn) :
    (m.advanceAll s turns).Known who := by
  induction turns generalizing m with
  | nil => exact h
  | cons turn turns ih => exact ih (h.advance turn)

theorem Numbered.advanceAll (h : m.Numbered) (turns : List Turn) :
    (m.advanceAll s turns).Numbered := by
  induction turns generalizing m with
  | nil => exact h
  | cons turn turns ih => exact ih (h.advance turn)

end Machine
end WebRecipe
