import WebRecipe.CommandLine.Arguments
import WebRecipe.EnvironmentFile
import WebRecipe.Output
import WebRecipe.Recipe.Basic
import WebRecipe.Recipe.Load

/-!
# Commands

What a command does before a browser is needed: it tells its version, refuses wrong arguments, and
loads the recipes of a directory to give an overview of them or to choose those to run.
-/

namespace WebRecipe.CommandLine

/-- What a command leaves: its exit code and the lines that it printed. -/
structure Outcome where
  code : Nat
  lines : List String
  deriving Repr, DecidableEq

/-- The line that tells the version. -/
def versionLine : String := "grabber 0.1.0"

/-- The line after the recipes are loaded. -/
def loadedLine : String := "Grab configs loaded"

/-- The outcome of a command whose arguments stop it. -/
def Stop.outcome : Stop → Outcome
  | version => ⟨0, [versionLine]⟩
  | usage => ⟨2, []⟩

/-- What is left to do. -/
inductive Task where
  /-- Nothing. -/
  | none
  /-- Answering requests in a browser. -/
  | serve (settings : Settings)
  /-- Running recipes in a browser. -/
  | run (settings : Settings) (recipes : List Recipe)

/-- A command as it is understood. -/
structure Command where
  arguments : Arguments
  settings : Settings

/-- Understands arguments in an environment. -/
def Command.ofArguments (env : Environment) (args : List String) : Except Stop Command := do
  let arguments ← Arguments.read args
  return { arguments, settings := ← arguments.settings env }

namespace Command

/-- Whether a flag is raised. -/
def has (c : Command) (flag : Flag) : Bool :=
  c.arguments.flags.contains flag

/-- The recipes that the command is about. -/
def recipes (c : Command) (isRegistered : String → Bool) (fs : FileSystem) :
    Except ConfigError (List Recipe) := do
  Recipe.select (← Recipe.load isRegistered fs c.settings.recipesDir) c.arguments.recipe

/-- Does the command as far as no browser is needed. -/
def perform (c : Command) (isRegistered : String → Bool) (fs : FileSystem) : Outcome × Task :=
  if c.has .server then (⟨0, []⟩, .serve c.settings)
  else
    match c.recipes isRegistered fs with
    | .error e => (⟨1, [Output.errorLine none e.message]⟩, .none)
    | .ok chosen =>
      if c.has .overview then (⟨0, loadedLine :: Recipe.overview chosen none⟩, .none)
      else (⟨0, [loadedLine]⟩, .run c.settings chosen)

end Command

/-- The outcome where no browser can be started: what needs one fails. -/
def withoutBrowser : Outcome × Task → Outcome
  | (outcome, .none) => outcome
  | (outcome, _) => { outcome with code := 1 }

/-- What a command leaves where no browser can be started; the environment file counts. -/
def outcome (isRegistered : String → Bool) (fs : FileSystem) (env : Environment)
    (args : List String) : Outcome :=
  match Command.ofArguments (EnvironmentFile.apply fs env) args with
  | .error stop => stop.outcome
  | .ok c => withoutBrowser (c.perform isRegistered fs)

end WebRecipe.CommandLine
