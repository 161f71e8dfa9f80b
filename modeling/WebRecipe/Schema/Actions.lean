import WebRecipe.Schema.Basic
import WebRecipe.Error
import WebRecipe.Placeholder
import WebRecipe.Url

/-!
# Schemas of the actions

The parameters of every built-in action. `validate` checks parameters before an action runs: missing
parameters with a default are filled in and undeclared ones dropped, except for `puppeteer`, whose
other parameters are the arguments of its call. Actions without a schema take any parameters.
-/

namespace WebRecipe.Schema

/-- The longest sleep, in milliseconds. -/
def maxSleep : Int := 300000

/-- A text of at least one character. -/
def filled : Schema := text 1

/-- Any text. -/
def anyText : Schema := text 0

/-- Any integer. -/
def anyInteger : Schema := integer none none none

/-- The name of an image format. -/
def imageType : Schema := choice ["jpeg", "png"]

/-- Nested actions, as far as their own schemas do not say more. -/
def body : Schema :=
  array 0 (object [("name", anyText), ("params", object [] [] false)] ["name"] true)

/-- Parameters of an action: those that it cannot do without, and those that may be missing. -/
def params (required optional : List (String × Schema)) : Schema :=
  object (required ++ optional) (required.map Prod.fst) false

/-- The schemas of the built-in actions by name. -/
def actions : List (String × Schema) :=
  [("setVariable", params [("key", filled)] [("value", any)]),
    ("getVariable", params [("key", filled)] [("index", number)]),
    ("deleteVariable", params [("key", filled)] []),
    ("transferVariable",
      params [("from", filled), ("to", filled)] [("index", number), ("key", anyText)]),
    ("appendToVariable", params [("key", filled)] [("value", any)]),
    ("countStart", params [("key", filled)] [("value", number)]),
    ("countIncrement", params [("key", filled)] []),
    ("countDecrement", params [("key", filled)] []),
    ("click", params [("selector", filled)] [("attribute", anyText), ("text", anyText)]),
    ("clickAll", params [("selector", filled)] []),
    ("scrollWaitClick", params [("selector", filled)] [("ms", integer (some 0) none none)]),
    ("type", params [("selector", filled), ("text", anyText)] [("secret", boolean)]),
    ("login",
      params
        [("url", filled), ("usernameSelector", filled), ("username", filled),
          ("passwordSelector", filled), ("password", filled), ("submitSelector", filled)]
        [("cookieName", anyText)]),
    ("puppeteer", params [("func", filled)] [("func2", anyText)]),
    ("screenshot", params [("name", filled)] [("type", imageType), ("fullPage", boolean)]),
    ("screenshotElement", params [("name", filled), ("selector", filled)] [("type", imageType)]),
    ("newPage", params [("pageKey", filled)] []),
    ("closePage", params [("pageKey", filled)] []),
    ("switchPage", params [("pageKey", filled)] []),
    ("getElements", params [("selector", filled)] [("attribute", anyText)]),
    ("getChildren",
      params [("selectorParent", filled), ("selectorChild", filled)] [("attribute", anyText)]),
    ("elementExists", params [("selector", filled)] []),
    ("setBaseDir", params [("dir", filled)] []),
    ("setCurrentDir", params [("dir", filled)] [("useBaseDir", boolean)]),
    ("resetCurrentDir", params [] []),
    ("backToParentDir", params [] []),
    ("createDir", params [("dir", filled)] [("useBaseDir", boolean)]),
    ("deleteFolder", params [("foldername", filled)] []),
    ("listFolders", params [] []),
    ("createFile", params [("filename", filled)] [("content", anyText)]),
    ("readFromText", params [("filename", filled)] [("breakLine", boolean)]),
    ("saveToText", params [("key", filled), ("filename", filled)] []),
    ("appendToText", params [("key", filled), ("filename", filled)] []),
    ("deleteFile", params [("filename", filled)] []),
    ("fileExists", params [("filename", filled)] []),
    ("checkStringInFile", params [("filename", filled), ("string", filled)] []),
    ("download",
      params [("url", filled)]
        [("filename", filled), ("host", anyText), ("showProgress", boolean)]),
    ("if", params [("condition", filled), ("actions", body)] []),
    ("ifElse", params [("condition", filled), ("actions", body), ("elseActions", body)] []),
    ("for",
      params [("from", anyInteger), ("until", anyInteger), ("actions", body)]
        [("step", integer none none (some 1))]),
    ("forEach", params [("key", filled), ("actions", body)] []),
    ("while", params [("condition", filled), ("actions", body)] []),
    ("sanitizeString", params [("string", anyText)] []),
    ("replaceString",
      params [("string", anyText), ("search", anyText), ("replace", anyText)] []),
    ("matchFromString", params [("string", anyText), ("regex", anyText)] []),
    ("matchFromSelector",
      params [("selector", filled), ("regex", anyText)] [("attribute", anyText)]),
    ("sleep", params [("ms", integer (some 0) (some maxSleep) none)] []),
    ("log", params [("message", anyText)] [("color", anyText), ("background", anyText)]),
    ("random", params [("min", number), ("max", number)] []),
    ("uuid", params [] []),
    ("getExtension", params [("string", filled)] []),
    ("userInput", params [("query", anyText)] [])]

/-- The schema of an action. -/
def ofAction? (action : String) : Option Schema :=
  actions.lookup action

/-- Whether an action has a schema. -/
def hasSchema (action : String) : Bool :=
  (ofAction? action).isSome

/-- Whether a text does not come after another. -/
def textBefore (a b : String) : Bool :=
  a ≤ b

/-- The names of the actions that have a schema, sorted. -/
def actionNames : List String :=
  (actions.map Prod.fst).mergeSort textBefore

/-- Whether the undeclared parameters of an action are kept. -/
def keepsUndeclared (action : String) : Bool :=
  action == "puppeteer"

/-- The parameters of an action that must be absolute URLs. -/
def urlParams (action : String) : List String :=
  if action = "login" then ["url"] else []

/-- The issues of parameters that must be absolute URLs, apart from some that are passed over. -/
def urlIssues (action : String) (ps : Members) (passOver : String → Bool) : List Issue :=
  ((urlParams action).filter (fun key ↦ !passOver key)).filterMap fun key ↦
    match (Members.get? ps key).bind Json.asStr? with
    | some raw => if (Url.parse? raw).isSome then none else some ⟨key, "Invalid URL format"⟩
    | none => none

/-- The parameters of an action as it gets them, or the rules that they break. -/
def validate (action : String) (ps : Members) : Except ActionError Members :=
  match ofAction? action with
  | none => .ok ps
  | some s =>
    let issues := s.check (.obj ps) ++ urlIssues action ps (fun _ ↦ false)
    if issues.isEmpty then
      let filledIn := s.withDefaults ps
      .ok (if keepsUndeclared action then filledIn else s.declaredOnly filledIn)
    else
      .error (.invalidParams action (Issue.lines (issues.map (Issue.nameRoot "params"))))

end WebRecipe.Schema
