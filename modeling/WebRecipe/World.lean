import WebRecipe.Output
import WebRecipe.Routine

/-!
# Worlds

The world in which routines run: the store, the files, the lines of output so far, the clock, and
surroundings, which answer for all that is beyond the program, such as pages and the network. The
surroundings have a state of their own, and nothing is known about them but their answers.
-/

namespace WebRecipe

/-- Surroundings with a state of type `σ`. -/
structure Surroundings (σ : Type) where
  openPage : σ → Except PageError PageId × σ
  closePage : PageId → σ → Except PageError Unit × σ
  page : PageId → (c : PageCall) → σ → Except PageError c.Reply × σ
  ask : String → σ → Except FileError String × σ
  fetch : Url → σ → Except FetchError Response × σ
  now : σ → Int
  freshId : σ → String × σ
  roll : σ → Float × σ

/-- A world whose surroundings are in a state of type `σ`. -/
structure World (σ : Type) where
  store : Store := {}
  files : FileSystem := {}
  lines : Array String := #[]
  /-- The time in milliseconds since the world began. -/
  clock : Nat := 0
  rest : σ

namespace World

variable {σ : Type}

/-- An answer of the surroundings, with their new state put into the world. -/
def toRest {α : Type} (w : World σ) (r : α × σ) : α × World σ :=
  (r.1, { w with rest := r.2 })

/-- The world with a line of output more. -/
def withLine (w : World σ) (line : String) : World σ :=
  { w with lines := w.lines.push line }

/-- The reply of a world to a command, and the world after it. -/
def answer (s : Surroundings σ) (w : World σ) : (c : Command) → c.Reply × World σ
  | .store a =>
    let r := a.answer w.store
    (r.1, { w with store := r.2 })
  | .file c =>
    let r := c.answer w.files
    (r.1, { w with files := r.2 })
  | .openPage => w.toRest (s.openPage w.rest)
  | .closePage p => w.toRest (s.closePage p w.rest)
  | .page p c => w.toRest (s.page p c w.rest)
  | .display text => ((), w.withLine (Output.line w.store.indent w.store.payloadId text))
  | .report line => ((), w.withLine line)
  | .ask question => w.toRest (s.ask question w.rest)
  | .fetch url => w.toRest (s.fetch url w.rest)
  | .sleep ms => ((), { w with clock := w.clock + ms })
  | .now => (s.now w.rest, w)
  | .freshId => w.toRest (s.freshId w.rest)
  | .roll => w.toRest (s.roll w.rest)

end World

namespace Routine

variable {σ α : Type}

/-- The result of a routine that has the world for itself, and the world after it. -/
def run (s : Surroundings σ) (w : World σ) : Routine α → Option α × World σ
  | done a => (some a, w)
  | unfinished => (none, w)
  | step c next =>
    let r := w.answer s c
    run s r.2 (next r.1)

end Routine
end WebRecipe
