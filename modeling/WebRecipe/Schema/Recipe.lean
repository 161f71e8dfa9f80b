import WebRecipe.Schema.Actions

/-!
# Checking recipes

A recipe is checked as a whole before it runs: first the shape of the document, and if that is right,
every action in it at any depth. An action must be registered, and its parameters must fit its
schema, except that a parameter whose text holds a placeholder may become anything.
-/

namespace WebRecipe.Schema

/-- The shape of a recipe. -/
def recipe : Schema :=
  object
    [("name", name), ("description", text 0),
      ("actions",
        array 1
          (object [("name", text 1), ("params", object [] [] false), ("await", boolean)] ["name"]
            true))]
    ["name", "actions"] true

/-- The parameters that hold nested actions. -/
def bodyParams : List String := ["actions", "elseActions"]

/-- The field that a path begins with. -/
def firstField (path : String) : String :=
  String.ofList (path.toList.takeWhile (· != '.'))

/-- Whether a parameter is a text in which a placeholder might stand. -/
def isTemplated (ps : Members) (key : String) : Bool :=
  (Members.get? ps key).any Placeholder.isTemplate

/-- An issue of parameters as an issue of the action at a path. -/
def ofAction (action path : String) (i : Issue) : Issue :=
  Issue.under path { i with message := "Action \"" ++ action ++ "\" - " ++ i.message }

/-- The issues of the parameters of one action, apart from the actions nested in them. -/
def paramIssues (action : String) (ps : Members) (path : String) : List Issue :=
  match ofAction? action with
  | none => []
  | some s =>
    let own := (s.check (.obj ps)).filter (fun i ↦ !isTemplated ps (firstField i.path))
    (own ++ urlIssues action ps (isTemplated ps)).map (ofAction action path)

mutual

/-- The issues of an action and of the actions nested in it. -/
def checkAction (isRegistered : String → Bool) (path : String) : Json → List Issue
  | .obj ms =>
    match (Members.get? ms "name").bind Json.asStr? with
    | none => [⟨Issue.joinPath path "name", "Action name is required"⟩]
    | some action =>
      if isRegistered action then
        paramsOf isRegistered action (Issue.joinPath path "params") ms
      else [⟨Issue.joinPath path "name", "Unknown action: \"" ++ action ++ "\""⟩]
  | _ => [⟨Issue.joinPath path "name", "Action name is required"⟩]

/-- The issues of the parameters of an action, found among its members. -/
def paramsOf (isRegistered : String → Bool) (action path : String) :
    List (String × Json) → List Issue
  | [] => []
  | (key, v) :: rest =>
    if key = "params" then
      match v with
      | .obj ps =>
        paramIssues action ps path ++ nestedIn isRegistered "actions" path ps ++
          nestedIn isRegistered "elseActions" path ps
      | _ => []
    else paramsOf isRegistered action path rest

/-- The issues of the actions nested in a parameter. -/
def nestedIn (isRegistered : String → Bool) (key path : String) :
    List (String × Json) → List Issue
  | [] => []
  | (k, v) :: rest =>
    if k = key then
      match v with
      | .arr items => checkBody isRegistered (Issue.joinPath path key) 0 items
      | _ => []
    else nestedIn isRegistered key path rest

/-- The issues of actions in a row, the first one with the given number. -/
def checkBody (isRegistered : String → Bool) (path : String) (start : Nat) :
    List Json → List Issue
  | [] => []
  | v :: rest =>
    checkAction isRegistered (path ++ "." ++ toString start) v ++
      checkBody isRegistered path (start + 1) rest

end

/-- The issues of a recipe. The actions are looked at only where the shape is right. -/
def checkRecipe (isRegistered : String → Bool) (document : Json) : List Issue :=
  let shape := (recipe.check document).map (Issue.nameRoot "root")
  if shape.isEmpty then
    match (document.get? "actions").bind Json.asArr? with
    | some items => checkBody isRegistered "actions" 0 items
    | none => []
  else shape

end WebRecipe.Schema
