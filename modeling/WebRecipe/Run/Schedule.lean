import WebRecipe.Run.Machine

/-!
# Schedules

Who has the turn when. One works at a time, without interruption, until it waits for something: to
wake up, or for a file, the console or the network. Then the next in line goes on. What is started
joins the end of the line. Whoever waited for a file goes on when the line is empty, and only when
nobody waits for a file does the clock move on, to the next time of waking. The main sequence goes
first wherever it is among those who go on together.
-/

namespace WebRecipe

/-- Who is in line, who waits for an answer from outside, and who sleeps until when. -/
structure Line where
  ready : List Turn := [.main]
  waiting : List Turn := []
  sleeping : List (Turn × Nat) := []

namespace Line

/-- The main sequence before all others. -/
def mainFirst (turns : List Turn) : List Turn :=
  turns.filter (· == .main) ++ turns.filter (· != .main)

/-- Those who sleep and are woken next. -/
def nextSleepers (l : Line) : List Turn :=
  match (l.sleeping.map Prod.snd).min? with
  | none => []
  | some time => mainFirst ((l.sleeping.filter (fun e ↦ e.2 == time)).map Prod.fst)

end Line

/-- What someone in line does next. -/
inductive NextStep where
  | absent
  | stuck
  | result
  | command (c : Command)

namespace Machine

variable {σ : Type}

/-- What a routine waits for. -/
def nextOf {α : Type} : Routine α → NextStep
  | .done _ => .result
  | .unfinished => .stuck
  | .step c _ => .command c

/-- What the next step of a turn is. -/
def next (m : Machine σ) : Turn → NextStep
  | .main =>
    match m.main with
    | .working current _ _ => nextOf current
    | _ => .absent
  | .job number =>
    match m.jobs.lookup number with
    | some j => nextOf j.routine
    | none => .absent

/-- Whether a command waits for an answer from outside. -/
def waits : Command → Bool
  | .file _ => true
  | .ask _ => true
  | .fetch _ => true
  | _ => false

/-- The line with the job that a step started, if it started one, at its end. -/
def joinStarted (before after : Machine σ) (l : Line) : Line :=
  if before.started < after.started then
    { l with ready := l.ready ++ [.job before.started] }
  else l

/-- Lets the one at the head of the line take a step. -/
def stepHead (s : Surroundings σ) (m : Machine σ) (l : Line) (who : Turn) (rest : List Turn) :
    Option (Machine σ × Line) :=
  match m.next who with
  | .absent => some (m, { l with ready := rest })
  | .stuck => none
  | .result =>
    let m' := m.advance s who
    some (m', joinStarted m m' l)
  | .command c =>
    let m' := m.advance s who
    if waits c then some (m', { l with ready := rest, waiting := l.waiting ++ [who] })
    else
      match c with
      | .sleep ms =>
        if ms = 0 then some (m', l)
        else
          some (m',
            { l with ready := rest, sleeping := l.sleeping ++ [(who, m.world.clock + ms)] })
      | _ => some (m', l)

/-- Lets the run go on until it ends, for a number of steps at most. There is no outcome when a routine
is given up or the steps are used up. -/
def runFor (s : Surroundings σ) : Nat → Machine σ → Line → Option (Except ActionError Unit) × Machine σ
  | 0, m, _ => (none, m)
  | steps + 1, m, l =>
    match m.outcome? with
    | some outcome => (some outcome, m)
    | none =>
      match l.ready with
      | who :: rest =>
        match m.stepHead s l who rest with
        | some (m, l) => runFor s steps m l
        | none => (none, m)
      | [] =>
        if l.waiting.isEmpty then
          match l.nextSleepers with
          | [] => (none, m)
          | woken =>
            runFor s steps (m.advanceAll s woken)
              { l with
                ready := woken
                sleeping := l.sleeping.filter (fun e ↦ !woken.contains e.1) }
        else runFor s steps m { l with ready := Line.mainFirst l.waiting, waiting := [] }

end Machine
end WebRecipe
