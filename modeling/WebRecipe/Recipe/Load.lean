import WebRecipe.Files
import WebRecipe.Json.Parser
import WebRecipe.Recipe.Basic
import WebRecipe.Schema.Recipe
import WebRecipe.Yaml.Value

/-!
# Recipes of a directory

A file is a recipe file when its name says in which format it is written. The recipes of a directory
are those of its recipe files, in the order of the file names; a file that cannot be read, or whose
document is no recipe, is passed over, and of several recipes with one name the first counts.
-/

namespace WebRecipe.Recipe

/-! ### Recipes from documents

A document becomes a recipe when it breaks no rule; otherwise every broken rule is listed. One recipe,
or all, can be chosen from many by name. -/

/-- What a recipe without a usable name is called. -/
def unnamed : String := "<unnamed>"

/-- The recipe that a document describes. -/
def ofDocument (isRegistered : String → Bool) (document : Json) : Except ConfigError Recipe :=
  let name := (document.getStr? "name").getD unnamed
  let issues := Schema.checkRecipe isRegistered document
  if issues.isEmpty then
    (decode document).mapError fun e ↦ .invalidRecipe name ("  - root: " ++ e.message)
  else .error (.invalidRecipe name (Issue.lines issues))

/-- The recipes of a name, which must not be missing; without a name all of them. -/
def select (recipes : List Recipe) : Option String → Except ConfigError (List Recipe)
  | none => .ok recipes
  | some name =>
    let selected := recipes.filter (fun r ↦ r.name == name)
    if selected.isEmpty then .error (.unknownRecipe name) else .ok selected

/-! ### Formats -/

/-- How the document of a recipe is written. -/
inductive Format where
  | json
  | yaml
  deriving Repr, DecidableEq

namespace Format

/-- The format that a file name tells. -/
def ofFileName? (name : String) : Option Format :=
  match Path.extension name with
  | ".json" => some .json
  | ".yml" => some .yaml
  | ".yaml" => some .yaml
  | _ => none

/-- The document that a text writes. -/
def read? (format : Format) (text : String) : Option Json :=
  match format with
  | .json => (Json.parse text).toOption
  | .yaml => (Yaml.parse text).toOption

end Format

/-! ### Files -/

/-- The recipe of a text, if the text is a document that is one. -/
def ofText? (isRegistered : String → Bool) (format : Format) (text : String) : Option Recipe :=
  (format.read? text).bind fun document ↦ (ofDocument isRegistered document).toOption

/-- The recipe of a file, if it has one. -/
def ofFile? (isRegistered : String → Bool) (fs : FileSystem) (dir name : String) : Option Recipe := do
  let format ← Format.ofFileName? name
  let text ← (fs.readText (Path.join dir name)).toOption
  ofText? isRegistered format text

/-- The names of the recipe files in a directory, in ascending order. -/
def fileNames (fs : FileSystem) (dir : String) : Except FileError (List String) := do
  let entries ← fs.list dir
  let names := entries.filterMap fun e ↦
    if !e.2 && (Format.ofFileName? e.1).isSome then some e.1 else none
  return names.mergeSort (fun a b ↦ decide (a ≤ b))

/-! ### Directories -/

/-- The first recipe of each name. -/
def firstOfEachName : List Recipe → List Recipe
  | [] => []
  | r :: rest => r :: (firstOfEachName rest).filter (fun other ↦ other.name != r.name)

/-- The recipes of a directory, of which there must be some. -/
def load (isRegistered : String → Bool) (fs : FileSystem) (dir : String) :
    Except ConfigError (List Recipe) := do
  let names ← (fileNames fs dir).mapError (.file dir)
  let recipes := firstOfEachName (names.filterMap (ofFile? isRegistered fs dir))
  if recipes.isEmpty then .error .noRecipes else return recipes

end WebRecipe.Recipe
