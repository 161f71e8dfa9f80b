import WebRecipe.Action.Basic
import WebRecipe.World

/-!
# Logs of routines

When others work beside a routine, the world is not its own, and what it does is not a function of
the world in which it begins. It is still told by its log: the commands that were carried out for it
and the replies that they got. A log says how far a routine has come, and the log of two routines
in a row is the log of the first one followed by that of the second.

## Main definitions

* `Deed`, `Log`: a command with its reply, and a list of them.
* `Routine.Goes`: what is left of a routine after a log.
* `Routine.Ends`: a routine ends after a log.

## Main results

* `Routine.ends_bind`, `Routine.ends_bind_error`, `Routine.ends_bind_ok`: logs of routines in a row.
-/

namespace WebRecipe

variable {α β : Type}

/-- A command that was carried out, and the reply to it. -/
structure Deed where
  command : Command
  reply : command.Reply

/-- What was done, in order. -/
abbrev Log := List Deed

/-- The reply is one that some surroundings give in some world. -/
def Deed.AnsweredIn {σ : Type} (s : Surroundings σ) (d : Deed) : Prop :=
  ∃ w : World σ, d.reply = (w.answer s d.command).1

namespace Routine

/-- What is left of a routine after a log. -/
inductive Goes : Routine α → Log → Routine α → Prop
  | refl (r : Routine α) : Goes r [] r
  | step {c : Command} {next : c.Reply → Routine α} {reply : c.Reply} {log : Log} {r : Routine α} :
      Goes (next reply) log r → Goes (.step c next) (⟨c, reply⟩ :: log) r

/-- A routine ends with a result after a log. -/
def Ends (r : Routine α) (log : Log) (a : α) : Prop :=
  r.Goes log (.done a)

theorem Goes.trans {r r' r'' : Routine α} {l l' : Log} (h : r.Goes l r') (h' : r'.Goes l' r'') :
    r.Goes (l ++ l') r'' := by
  induction h with
  | refl r => exact h'
  | step _ ih => exact .step (ih h')

/-- A routine goes on by one command. -/
theorem Goes.concat {r : Routine α} {l : Log} {c : Command} {next : c.Reply → Routine α}
    (h : r.Goes l (.step c next)) (reply : c.Reply) : r.Goes (l ++ [⟨c, reply⟩]) (next reply) :=
  h.trans (.step (.refl _))

theorem ends_done {a b : α} {log : Log} : (done a).Ends log b ↔ log = [] ∧ a = b := by
  constructor
  · rintro ⟨⟩
    exact ⟨rfl, rfl⟩
  · rintro ⟨rfl, rfl⟩
    exact .refl _

/-- Two routines in a row end when the first one does, and then the second. -/
theorem ends_bind {x : Routine α} {f : α → Routine β} {log : Log} {b : β} :
    (x >>= f).Ends log b ↔ ∃ a l₁ l₂, log = l₁ ++ l₂ ∧ x.Ends l₁ a ∧ (f a).Ends l₂ b := by
  constructor
  · intro h
    induction x generalizing log with
    | done a => exact ⟨a, [], log, rfl, .refl _, h⟩
    | unfinished => cases h
    | step c next ih =>
      cases h with
      | step h =>
        obtain ⟨a, l₁, l₂, rfl, h₁, h₂⟩ := ih _ h
        exact ⟨a, _ :: l₁, l₂, rfl, .step h₁, h₂⟩
  · rintro ⟨a, l₁, l₂, rfl, h₁, h₂⟩
    unfold Ends at h₁
    generalize hr : (done a : Routine α) = r at h₁
    induction h₁ with
    | refl r => subst hr; exact h₂
    | step _ ih => exact .step (ih hr)

/-! ### Actions -/

variable {x : Action α} {f : α → Action β} {log : Log}

/-- Two actions in a row succeed when both do. -/
theorem ends_bind_ok {b : β} :
    (x >>= f).run.Ends log (.ok b) ↔
      ∃ a l₁ l₂, log = l₁ ++ l₂ ∧ x.run.Ends l₁ (.ok a) ∧ (f a).run.Ends l₂ (.ok b) := by
  rw [ExceptT.run_bind, ends_bind]
  constructor
  · rintro ⟨_ | a, l₁, l₂, hlog, h₁, h₂⟩
    · obtain ⟨-, ⟨⟩⟩ := ends_done.1 h₂
    · exact ⟨a, l₁, l₂, hlog, h₁, h₂⟩
  · rintro ⟨a, l₁, l₂, hlog, h₁, h₂⟩
    exact ⟨.ok a, l₁, l₂, hlog, h₁, h₂⟩

/-- Two actions in a row fail when the first one does, or the first one succeeds and the second
one fails. -/
theorem ends_bind_error {e : ActionError} :
    (x >>= f).run.Ends log (.error e) ↔
      x.run.Ends log (.error e) ∨
        ∃ a l₁ l₂, log = l₁ ++ l₂ ∧ x.run.Ends l₁ (.ok a) ∧ (f a).run.Ends l₂ (.error e) := by
  rw [ExceptT.run_bind, ends_bind]
  constructor
  · rintro ⟨e' | a, l₁, l₂, rfl, h₁, h₂⟩
    · obtain ⟨rfl, ⟨⟩⟩ := ends_done.1 h₂
      rw [List.append_nil]
      exact .inl h₁
    · exact .inr ⟨a, l₁, l₂, rfl, h₁, h₂⟩
  · rintro (h | ⟨a, l₁, l₂, hlog, h₁, h₂⟩)
    · exact ⟨.error e, log, [], (List.append_nil log).symm, h, ends_done.2 ⟨rfl, rfl⟩⟩
    · exact ⟨.ok a, l₁, l₂, hlog, h₁, h₂⟩

/-- What follows a command begins with its reply. -/
theorem ends_command_bind {c : Command} {f : c.Reply → Action β} {o : Except ActionError β} :
    (Action.command c >>= f).run.Ends log o ↔
      ∃ reply l, log = ⟨c, reply⟩ :: l ∧ (f reply).run.Ends l o := by
  constructor
  · intro h
    cases (h : Goes (.step c fun reply ↦ (f reply).run) log (.done o)) with
    | step h => exact ⟨_, _, rfl, h⟩
  · rintro ⟨reply, l, rfl, h⟩
    exact .step h

end Routine
end WebRecipe
