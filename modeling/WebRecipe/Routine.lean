import WebRecipe.Files
import WebRecipe.Network
import WebRecipe.Page.Basic
import WebRecipe.Store

/-!
# Routines

What an action does: a command after another, each one chosen by the replies so far, until there is a
result. A command is anything that an action can ask of the world around it. A routine that would go
on for longer than it is allowed to has no result. Routines only say what is to be done; what the
replies are is up to the world in which they run.
-/

namespace WebRecipe

/-! ### Commands -/

/-- A single step of an action. -/
inductive Command where
  | store (access : StoreAccess)
  | file (call : FileCall)
  | openPage
  | closePage (page : PageId)
  | page (page : PageId) (call : PageCall)
  /-- A line of output, indented and marked as the store says. -/
  | display (text : String)
  /-- A line of output as it is. -/
  | report (line : String)
  /-- A question on the console, answered by a line. -/
  | ask (question : String)
  | fetch (url : Url)
  | sleep (milliseconds : Nat)
  /-- The time of day in milliseconds since the beginning of 1970. -/
  | now
  | freshId
  /-- A number from zero up to, but not including, one. -/
  | roll

namespace Command

/-- The type of the reply to a command. -/
def Reply : Command → Type
  | store a => a.Reply
  | file c => Except FileError c.Reply
  | openPage => Except PageError PageId
  | closePage _ => Except PageError Unit
  | page _ c => Except PageError c.Reply
  | display _ => Unit
  | report _ => Unit
  | ask _ => Except FileError String
  | fetch _ => Except FetchError Response
  | sleep _ => Unit
  | now => Int
  | freshId => String
  | roll => Float

end Command

/-! ### Routines -/

/-- A sequence of commands with a result of type `α`. -/
inductive Routine (α : Type) where
  | done (result : α)
  /-- The routine was given up. -/
  | unfinished
  | step (command : Command) (next : command.Reply → Routine α)

namespace Routine

variable {α β : Type}

/-- The routine that goes on with the result of another. -/
def bind : Routine α → (α → Routine β) → Routine β
  | done a, f => f a
  | unfinished, _ => unfinished
  | step c next, f => step c (fun r ↦ bind (next r) f)

instance : Monad Routine where
  pure := done
  bind := bind

/-- The routine of one command. -/
def command (c : Command) : Routine c.Reply :=
  step c done

@[simp]
theorem pure_eq (a : α) : (pure a : Routine α) = done a := rfl

@[simp]
theorem done_bind (a : α) (f : α → Routine β) : (done a >>= f) = f a := rfl

@[simp]
theorem unfinished_bind (f : α → Routine β) : (unfinished >>= f) = unfinished := rfl

@[simp]
theorem step_bind (c : Command) (next : c.Reply → Routine α) (f : α → Routine β) :
    (step c next >>= f) = step c (fun r ↦ next r >>= f) := rfl

theorem bind_done (r : Routine α) : (r >>= done) = r := by
  induction r with
  | done a => rfl
  | unfinished => rfl
  | step c next ih => simp [ih]

theorem bind_assoc {γ : Type} (r : Routine α) (f : α → Routine β) (g : β → Routine γ) :
    (r >>= f >>= g) = r >>= fun a ↦ f a >>= g := by
  induction r with
  | done a => rfl
  | unfinished => rfl
  | step c next ih => simp [ih]

instance : LawfulMonad Routine := LawfulMonad.mk' Routine bind_done (fun _ _ ↦ rfl) bind_assoc

instance : Inhabited (Routine α) := ⟨unfinished⟩

end Routine
end WebRecipe
