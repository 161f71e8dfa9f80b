import WebRecipe.Number.Reading
import WebRecipe.Text.Blank

/-!
# Settings

What the environment decides for all runs. A number that cannot be read, or is out of range, leaves
the default in place.
-/

namespace WebRecipe

/-- The variables of an environment with their values; of two settings of a variable the last counts. -/
abbrev Environment := List (String × String)

/-- The value of a variable. -/
def Environment.get? (env : Environment) (name : String) : Option String :=
  env.reverse.lookup name

/-- The settings of a process. -/
structure Settings where
  recipesDir : String := "grabs"
  resourcesDir : String := "resources"
  port : Nat := 3000
  rateWindow : Nat := 900000
  rateMaxRequests : Nat := 100
  headless : Bool := true
  browserPath : Option String := none
  /-- The directory from which relative paths start. -/
  workingDir : String := "/"
  deriving Repr, DecidableEq

namespace Settings

/-- The variables that settings come from. -/
def variableNames : List String :=
  ["GRABS_DIR", "RESOURCES_DIR", "PORT", "GRABBER_RATE_LIMIT_WINDOW_MS",
    "GRABBER_RATE_LIMIT_MAX_REQUESTS", "CHROME_EXECUTABLE"]

/-- The number in a variable, if it has so many bits at most. -/
def number (env : Environment) (name : String) (bits fallback : Nat) : Nat :=
  match env.get? name with
  | some raw => (readNatural? 10 (Nat.pow 2 bits) (Text.trim raw.toList)).getD fallback
  | none => fallback

/-- The settings that an environment makes. -/
def ofEnvironment (env : Environment) : Settings :=
  let defaults : Settings := {}
  { recipesDir := (env.get? "GRABS_DIR").getD defaults.recipesDir
    resourcesDir := (env.get? "RESOURCES_DIR").getD defaults.resourcesDir
    port := number env "PORT" 16 defaults.port
    rateWindow := number env "GRABBER_RATE_LIMIT_WINDOW_MS" 64 defaults.rateWindow
    rateMaxRequests := number env "GRABBER_RATE_LIMIT_MAX_REQUESTS" 32 defaults.rateMaxRequests
    headless := defaults.headless
    browserPath := env.get? "CHROME_EXECUTABLE" }

end Settings
end WebRecipe
