import WebRecipe.Action.Control
import WebRecipe.Action.Files
import WebRecipe.Action.Login
import WebRecipe.Action.Pages
import WebRecipe.Action.Values
import WebRecipe.Action.Variables
import WebRecipe.Registry

/-!
# The built-in actions

Every action that a recipe can use without extensions, under the name by which it is called.
-/

namespace WebRecipe.Action

/-- The built-in actions by name. -/
def builtins : List (String × Handler) :=
  [("setVariable", setVariable),
    ("getVariable", getVariable),
    ("deleteVariable", deleteVariable),
    ("transferVariable", transferVariable),
    ("appendToVariable", appendToVariable),
    ("countStart", countStart),
    ("countIncrement", countIncrement),
    ("countDecrement", countDecrement),
    ("if", ifTrue),
    ("ifElse", ifElse),
    ("for", countingLoop),
    ("forEach", itemLoop),
    ("while", conditionLoop),
    ("setBaseDir", setBaseDir),
    ("setCurrentDir", setCurrentDir),
    ("resetCurrentDir", resetCurrentDir),
    ("backToParentDir", backToParentDir),
    ("createDir", createDir),
    ("deleteFolder", deleteFolder),
    ("listFolders", listFolders),
    ("createFile", createFile),
    ("readFromText", readFromText),
    ("saveToText", saveToText),
    ("appendToText", appendToText),
    ("deleteFile", deleteFile),
    ("fileExists", fileExists),
    ("checkStringInFile", checkStringInFile),
    ("download", download),
    ("puppeteer", callMethod),
    ("newPage", newPage),
    ("closePage", closePage),
    ("switchPage", switchPage),
    ("screenshot", screenshot),
    ("screenshotElement", screenshotElement),
    ("getElements", getElements),
    ("getChildren", getChildren),
    ("elementExists", elementExists),
    ("click", click),
    ("clickAll", clickAll),
    ("scrollWaitClick", scrollWaitClick),
    ("type", typeText),
    ("login", login),
    ("sleep", sleep),
    ("log", log),
    ("sanitizeString", sanitizeString),
    ("replaceString", replaceString),
    ("matchFromString", matchFromString),
    ("matchFromSelector", matchFromSelector),
    ("random", random),
    ("uuid", uuid),
    ("getExtension", getExtension),
    ("userInput", userInput)]

/-- The registry of the built-in actions. -/
def builtinRegistry : Registry Handler :=
  { builtins := builtins }

end WebRecipe.Action
