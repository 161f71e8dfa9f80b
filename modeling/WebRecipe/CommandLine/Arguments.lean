import WebRecipe.Settings
import WebRecipe.Text.Search

/-!
# Arguments of the command line

The arguments choose a recipe, switch flags on and name directories. A flag has a name after two
hyphens, and may have a letter after one; letters can stand together. A directory follows its name or
an equals sign. After two hyphens alone nothing is a flag.

The arguments are read from left to right, and reading stops where the version is asked for or where
they are wrong: an unknown or repeated flag, a second recipe, or a directory that is missing or empty.
-/

namespace WebRecipe.CommandLine

/-- What is switched on. -/
inductive Flag where
  | overview
  | server
  | verbose
  | headful
  deriving Repr, DecidableEq

/-- The flag that has a name. -/
def Flag.ofName? : String → Option Flag
  | "help" => some overview
  | "server" => some server
  | "verbose" => some verbose
  | "headful" => some headful
  | _ => none

/-- What is named. -/
inductive Place where
  | recipes
  | resources
  deriving Repr, DecidableEq

namespace Place

/-- The directory that an argument of a name gives. -/
def ofName? : String → Option Place
  | "grabs-dir" => some recipes
  | "resources-dir" => some resources
  | _ => none

/-- The variable that gives a directory in place of an argument. -/
def variableName : Place → String
  | recipes => "GRABS_DIR"
  | resources => "RESOURCES_DIR"

end Place

/-- The arguments of a command. -/
structure Arguments where
  flags : List Flag := []
  places : List (Place × String) := []
  recipe : Option String := none
  deriving Repr, DecidableEq

/-- Why reading stops early. -/
inductive Stop where
  /-- The version is asked for. -/
  | version
  /-- The arguments are wrong. -/
  | usage
  deriving Repr, DecidableEq

namespace Arguments

/-- The arguments with a flag, which must be new. -/
def raise (a : Arguments) (flag : Flag) : Except Stop Arguments :=
  if a.flags.contains flag then .error .usage else .ok { a with flags := flag :: a.flags }

/-- The arguments with a directory, which must be new and have a name. -/
def setPlace (a : Arguments) (place : Place) (dir : String) : Except Stop Arguments :=
  if dir.isEmpty || (a.places.lookup place).isSome then .error .usage
  else .ok { a with places := (place, dir) :: a.places }

/-- The arguments with a recipe, which must be the only one. -/
def setRecipe (a : Arguments) (name : String) : Except Stop Arguments :=
  if a.recipe.isSome then .error .usage else .ok { a with recipe := some name }

/-! ### Reading -/

/-- The arguments with the flags of letters. -/
def readLetters (a : Arguments) : List Char → Except Stop Arguments
  | [] => .ok a
  | 'v' :: rest => do (← a.raise .verbose).readLetters rest
  | 'V' :: _ => .error .version
  | _ :: _ => .error .usage

/-- How an argument begins. -/
inductive Shape where
  /-- Two hyphens alone. -/
  | separator
  /-- A name after two hyphens, and what follows an equals sign. -/
  | named (name : String) (value : Option String)
  /-- Letters after one hyphen. -/
  | letters (cs : List Char)
  | word

/-- How an argument begins; a hyphen alone is a word. -/
def Shape.ofArgument (arg : String) : Shape :=
  match arg.toList with
  | ['-', '-'] => .separator
  | '-' :: '-' :: rest =>
    let name := String.ofList (rest.takeWhile (· != '='))
    match rest.dropWhile (· != '=') with
    | _ :: value => .named name (some (String.ofList value))
    | [] => .named name none
  | ['-'] => .word
  | '-' :: rest => .letters rest
  | _ => .word

/-- The arguments with recipes named one after another. -/
def readRecipes (a : Arguments) : List String → Except Stop Arguments
  | [] => .ok a
  | name :: rest => do (← a.setRecipe name).readRecipes rest

/-- The arguments with all that a list says. -/
def readAll (a : Arguments) : List String → Except Stop Arguments
  | [] => .ok a
  | arg :: rest =>
    match Shape.ofArgument arg with
    | .separator => a.readRecipes rest
    | .letters cs => do (← a.readLetters cs).readAll rest
    | .word => do (← a.setRecipe arg).readAll rest
    | .named name value =>
      match Flag.ofName? name, Place.ofName? name, value with
      | some flag, _, none => do (← a.raise flag).readAll rest
      | _, some place, some dir => do (← a.setPlace place dir).readAll rest
      | _, some place, none =>
        match rest with
        | dir :: more =>
          match Shape.ofArgument dir with
          | .word => do (← a.setPlace place dir).readAll more
          | _ => .error .usage
        | [] => .error .usage
      | _, _, _ => .error (if name == "version" && value.isNone then .version else .usage)

/-- The arguments that a list makes. -/
def read (args : List String) : Except Stop Arguments :=
  readAll {} args

/-! ### The environment -/

/-- The directory that an argument gives, or else a variable; the variable must not be empty. -/
def place? (a : Arguments) (env : Environment) (place : Place) : Except Stop (Option String) :=
  match a.places.lookup place with
  | some dir => .ok (some dir)
  | none =>
    match env.get? place.variableName with
    | some dir => if dir.isEmpty then .error .usage else .ok (some dir)
    | none => .ok none

/-- The settings of an environment as far as the arguments do not decide them. -/
def settings (a : Arguments) (env : Environment) : Except Stop Settings := do
  let made := Settings.ofEnvironment env
  let recipes ← a.place? env .recipes
  let resources ← a.place? env .resources
  return { made with
    recipesDir := recipes.getD made.recipesDir
    resourcesDir := resources.getD made.resourcesDir
    headless := !a.flags.contains .headful }

end Arguments
end WebRecipe.CommandLine
