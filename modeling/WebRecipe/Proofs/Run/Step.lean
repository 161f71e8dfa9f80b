import WebRecipe.Proofs.Run.Account

/-!
# What happens at a turn

All that a turn of the main sequence, and of somebody beside it, can do to a machine. What is to be
known of a turn follows from this by cases.

## Main definitions

* `Machine.MainStep`, `Machine.JobStep`: a turn, with what is carried out at it and the machine
  after it.

## Main results

* `Machine.mainStep`, `Machine.jobStep`: each turn is of one of these kinds.
* `Machine.reply_of_deed?`, `Machine.world_advance`: the reply at a turn, and the world after it.
* `Machine.exists_turn_of_logOf`: what is in a log was carried out at a turn.
-/

namespace WebRecipe

namespace Machine

variable {σ : Type} {s : Surroundings σ} {m : Machine σ}

/-- A turn of the main sequence. -/
inductive MainStep (s : Surroundings σ) (m : Machine σ) : Option Deed → Machine σ → Prop
  | finished (main : m.main = .over) : MainStep s m none m
  | failed {e : ActionError} (main : m.main = .failed e) : MainStep s m none m
  | stuck {later : List Stage} (main : m.main = .working .unfinished later none) :
      MainStep s m none m
  | wakes {r : Routine (Except ActionError (Option (Action Unit)))} {later : List Stage}
      {time : Nat} (main : m.main = .working r later (some time)) :
      MainStep s m none
        { m with main := .working r later none, world := wakened m.world time }
  | fails {e : ActionError} {later : List Stage}
      (main : m.main = .working (.done (.error e)) later none) :
      MainStep s m none { m with main := .failed e, jobs := [] }
  | passes {later : List Stage} (main : m.main = .working (.done (.ok none)) later none) :
      MainStep s m none { m with main := mainOf later }
  | starts {a : Action Unit} {later : List Stage}
      (main : m.main = .working (.done (.ok (some a))) later none) :
      MainStep s m none
        { m with
          main := mainOf later
          jobs := m.jobs ++ [(m.started, ⟨a, none⟩)]
          started := m.started + 1 }
  | goesOn {c : Command} {next : c.Reply → Routine (Except ActionError (Option (Action Unit)))}
      {later : List Stage} (main : m.main = .working (.step c next) later none) :
      MainStep s m (some ⟨c, (reply s m.world c).1⟩)
        { m with
          main := .working (next (reply s m.world c).1) later (reply s m.world c).2.2
          world := (reply s m.world c).2.1 }

/-- A turn of the main sequence is one of these. -/
theorem mainStep (s : Surroundings σ) (m : Machine σ) :
    MainStep s m (m.deed? s .main) (m.stepMain s) := by
  rw [deed?, stepMain]
  rcases hmain : m.main with ⟨current, later, wakeAt⟩ | _ | e
  · cases wakeAt with
    | some time => exact .wakes hmain
    | none =>
      cases current with
      | unfinished => exact .stuck hmain
      | step c next => exact .goesOn hmain
      | done outcome =>
        rcases outcome with e | (_ | a)
        · exact .fails hmain
        · exact .passes hmain
        · exact .starts hmain
  · exact .finished hmain
  · exact .failed hmain

/-- A turn of somebody beside the main sequence. -/
inductive JobStep (s : Surroundings σ) (m : Machine σ) (n : Nat) : Option Deed → Machine σ → Prop
  | absent (job : m.jobs.lookup n = none) : JobStep s m n none m
  | stuck (job : m.jobs.lookup n = some ⟨.unfinished, none⟩) : JobStep s m n none m
  | wakes {r : Routine (Except ActionError Unit)} {time : Nat}
      (job : m.jobs.lookup n = some ⟨r, some time⟩) :
      JobStep s m n none
        { m with jobs := setJob n ⟨r, none⟩ m.jobs, world := wakened m.world time }
  | ends {o : Except ActionError Unit} (job : m.jobs.lookup n = some ⟨.done o, none⟩) :
      JobStep s m n none
        { m with jobs := dropJob n m.jobs, failures := m.failures ++ (failure? o).toList }
  | goesOn {c : Command} {next : c.Reply → Routine (Except ActionError Unit)}
      (job : m.jobs.lookup n = some ⟨.step c next, none⟩) :
      JobStep s m n (some ⟨c, (reply s m.world c).1⟩)
        { m with
          jobs := setJob n ⟨next (reply s m.world c).1, (reply s m.world c).2.2⟩ m.jobs
          world := (reply s m.world c).2.1 }

/-- A turn of somebody beside the main sequence is one of these. -/
theorem jobStep (s : Surroundings σ) (m : Machine σ) (n : Nat) :
    JobStep s m n (m.deed? s (.job n)) (m.stepJob s n) := by
  rw [deed?, stepJob]
  cases hjob : m.jobs.lookup n with
  | none => exact .absent hjob
  | some j =>
    obtain ⟨routine, wakeAt⟩ := j
    cases wakeAt with
    | some time => exact .wakes hjob
    | none =>
      cases routine with
      | unfinished => exact .stuck hjob
      | step c next => exact .goesOn hjob
      | done outcome =>
        have hends := JobStep.ends (s := s) hjob
        cases outcome with
        | ok =>
          rw [show (failure? (.ok ())).toList = [] from rfl, List.append_nil] at hends
          exact hends
        | error e => exact hends

/-- What is carried out at a turn is answered by the world as it is then. -/
theorem reply_of_deed? {turn : Turn} {d : Deed} (h : m.deed? s turn = some d) :
    d.reply = (m.world.answer s d.command).1 := by
  cases turn with
  | main =>
    have hstep := m.mainStep s
    rw [h] at hstep
    generalize m.stepMain s = m' at hstep
    cases hstep with
    | goesOn => exact reply_fst s m.world _
  | job n =>
    have hstep := m.jobStep s n
    rw [h] at hstep
    generalize m.stepJob s n = m' at hstep
    cases hstep with
    | goesOn => exact reply_fst s m.world _

/-- A turn changes the world as the command says that is carried out at it, if there is one, apart
from the clock. -/
theorem world_advance (turn : Turn) :
    ∃ clock, (m.advance s turn).world =
      { (m.deed? s turn).elim m.world fun d ↦ (m.world.answer s d.command).2 with clock } := by
  have hreply (c : Command) : ∃ clock, (reply s m.world c).2.1 =
      { (m.world.answer s c).2 with clock } := by
    cases c <;> exact ⟨_, rfl⟩
  cases turn with
  | main =>
    have hstep := m.mainStep s
    rw [advance]
    generalize m.deed? s .main = d, m.stepMain s = m' at hstep ⊢
    cases hstep with
    | goesOn => exact hreply _
    | _ => exact ⟨_, rfl⟩
  | job n =>
    have hstep := m.jobStep s n
    rw [advance]
    generalize m.deed? s (.job n) = d, m.stepJob s n = m' at hstep ⊢
    cases hstep with
    | goesOn => exact hreply _
    | _ => exact ⟨_, rfl⟩

/-- A turn changes the store as the command says that is carried out at it, if there is one. -/
theorem store_advance (turn : Turn) :
    (m.advance s turn).world.store =
      (m.deed? s turn).elim m.world.store fun d ↦ (m.world.answer s d.command).2.store := by
  obtain ⟨clock, hworld⟩ := world_advance (s := s) (m := m) turn
  rw [hworld]
  cases m.deed? s turn <;> rfl

/-- A turn starts somebody or nobody. -/
theorem started_le_advance (m : Machine σ) (turn : Turn) :
    m.started ≤ (m.advance s turn).started := by
  cases turn with
  | main =>
    have hstep := m.mainStep s
    rw [advance]
    generalize m.deed? s .main = d, m.stepMain s = m' at hstep ⊢
    cases hstep with
    | starts => exact Nat.le_succ _
    | _ => exact Nat.le_refl _
  | job n =>
    have hstep := m.jobStep s n
    rw [advance]
    generalize m.deed? s (.job n) = d, m.stepJob s n = m' at hstep ⊢
    cases hstep <;> exact Nat.le_refl _

/-! ### Turns in a row -/

theorem advanceAll_concat (turns : List Turn) (turn : Turn) :
    m.advanceAll s (turns ++ [turn]) = (m.advanceAll s turns).advance s turn := by
  rw [advanceAll, List.foldl_append]
  rfl

/-- A log goes on with what is done in further turns. -/
theorem logOf_append (m : Machine σ) (turns turns' : List Turn) (who : Turn) :
    logOf s m (turns ++ turns') who =
      logOf s m turns who ++ logOf s (m.advanceAll s turns) turns' who := by
  induction turns generalizing m with
  | nil => rfl
  | cons turn turns ih =>
    rw [List.cons_append, logOf, logOf, ih, List.append_assoc]
    rfl

/-- What is in a log was carried out at a turn. -/
theorem exists_turn_of_logOf {m : Machine σ} {turns : List Turn} {who : Turn} {l l' : Log}
    {d : Deed} (h : logOf s m turns who = l ++ d :: l') :
    ∃ early late, turns = early ++ who :: late ∧ logOf s m early who = l ∧
      (m.advanceAll s early).deed? s who = some d := by
  induction turns generalizing m l with
  | nil => exact absurd h.symm (List.append_ne_nil_of_right_ne_nil _ (List.cons_ne_nil _ _))
  | cons turn turns ih =>
    rw [logOf] at h
    have hlater {l₁ : Log} (hdeeds : m.deeds s turn who ++ l₁ = l)
        (hrest : logOf s (m.advance s turn) turns who = l₁ ++ d :: l') :
        ∃ early late, turn :: turns = early ++ who :: late ∧ logOf s m early who = l ∧
          (m.advanceAll s early).deed? s who = some d := by
      obtain ⟨early, late, rfl, rfl, hdeed⟩ := ih hrest
      exact ⟨turn :: early, late, rfl, hdeeds, hdeed⟩
    by_cases hwho : who = turn
    · subst hwho
      cases hnow : m.deed? s who with
      | none =>
        have hdeeds : m.deeds s who who = [] := by rw [deeds, if_pos rfl, hnow]; rfl
        rw [hdeeds] at h
        exact hlater (by rw [hdeeds]; rfl) h
      | some d' =>
        have hdeeds : m.deeds s who who = [d'] := by rw [deeds, if_pos rfl, hnow]; rfl
        rw [hdeeds] at h
        cases l with
        | nil =>
          obtain ⟨rfl, -⟩ := List.cons.inj h
          exact ⟨[], turns, rfl, rfl, hnow⟩
        | cons d₁ l₁ =>
          obtain ⟨rfl, hrest⟩ := List.cons.inj h
          exact hlater (by rw [hdeeds]; rfl) hrest
    · have hdeeds : m.deeds s turn who = [] := if_neg hwho
      rw [hdeeds] at h
      exact hlater (by rw [hdeeds]; rfl) h

end Machine
end WebRecipe
