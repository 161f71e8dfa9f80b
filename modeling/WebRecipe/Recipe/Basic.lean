import WebRecipe.Decode
import WebRecipe.Json.Basic

/-!
# Recipes

A recipe is a named list of actions. An action has a name and parameters; one that is not awaited is
deferred: it starts with the others but the recipe does not wait for it before its end.
-/

namespace WebRecipe

/-- An action of a recipe. -/
structure ActionCall where
  name : String
  params : Option Members
  await : Bool := true
  deriving Repr

/-- A recipe. -/
structure Recipe where
  name : String
  description : Option String
  actions : List ActionCall
  deriving Repr

namespace ActionCall

/-- The parameters; none are no members. -/
def paramsOrEmpty (a : ActionCall) : Members :=
  a.params.getD []

/-- An awaited action with its parameters; parameters that are no object count as none. -/
def awaited (name : String) (params : Json) : ActionCall :=
  ⟨name, params.asObj?, true⟩

end ActionCall

namespace Recipe

/-- The description, or a text that stands for a missing one. -/
def descriptionOrDefault (r : Recipe) : String :=
  r.description.getD "No description provided"

/-- Name and description of the selected recipes, one line each. -/
def overview (recipes : List Recipe) (selection : Option String) : List String :=
  (recipes.filter (fun r ↦ selection.all (· == r.name))).flatMap fun r ↦
    ["Grab : " ++ r.name, "Description : " ++ r.descriptionOrDefault]

end Recipe

/-! ### Decoding recipes

Recipes and actions from JSON values. The description and the parameters may be missing or `null`, an
action that does not say so is awaited. -/

namespace ActionCall

/-- The fields that are read so far. -/
structure Draft where
  name : String := ""
  params : Option Members := none
  await : Bool := true

/-- Reads one field. -/
def readField (d : Draft) (field : String) (v : Json) : Decode.Result Draft := do
  match field with
  | "name" => return { d with name := ← Decode.text v }
  | "params" => return { d with params := ← Decode.optional Decode.members v }
  | _ => return { d with await := ← Decode.bool v }

/-- The action that a value describes. -/
def decode (v : Json) : Decode.Result ActionCall := do
  let d ← Decode.record "GrabAction" [⟨"name", false⟩, ⟨"params", true⟩, ⟨"await", true⟩] readField
    {} v
  return ⟨d.name, d.params, d.await⟩

end ActionCall

namespace Recipe

/-- The fields that are read so far. -/
structure Draft where
  name : String := ""
  description : Option String := none
  actions : List ActionCall := []

/-- Reads one field. -/
def readField (d : Draft) (field : String) (v : Json) : Decode.Result Draft := do
  match field with
  | "name" => return { d with name := ← Decode.text v }
  | "description" => return { d with description := ← Decode.optional Decode.text v }
  | _ => return { d with actions := ← Decode.list ActionCall.decode v }

/-- The recipe that a value describes. -/
def decode (v : Json) : Decode.Result Recipe := do
  let d ← Decode.record "Grab" [⟨"name", false⟩, ⟨"description", true⟩, ⟨"actions", false⟩] readField
    {} v
  return ⟨d.name, d.description, d.actions⟩

end Recipe
end WebRecipe
