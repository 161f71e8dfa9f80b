import WebRecipe.Condition.Basic
import WebRecipe.Text.Search

/-!
# Errors

The ways in which files, pages, actions and recipes fail, each with its wording. An error names its
cause; the wording is built from it in one place.
-/

namespace WebRecipe

/-! ### Files -/

/-- Why an operation on a file fails. -/
inductive FileError where
  | notFound
  | exists
  | notDirectory
  | isDirectory
  | notEmpty
  | nameTooLong
  | nulInName
  | notText
  /-- Any other cause, in the words of the system. -/
  | other (text : String)
  deriving Repr, DecidableEq

/-- The wording of a file error. -/
def FileError.message : FileError → String
  | notFound => "No such file or directory (os error 2)"
  | «exists» => "File exists (os error 17)"
  | notDirectory => "Not a directory (os error 20)"
  | isDirectory => "Is a directory (os error 21)"
  | nameTooLong => "File name too long (os error 36)"
  | notEmpty => "Directory not empty (os error 39)"
  | nulInName => "file name contained an unexpected NUL byte"
  | notText => "stream did not contain valid UTF-8"
  | other text => text

/-! ### Pages -/

/-- Why an operation on a page fails. -/
inductive PageError where
  | launch (text : String)
  | timeout (text : String)
  | noElement (selector : String)
  | protocol (text : String)
  | unsupported (method : String)
  | file (error : FileError)
  deriving Repr, DecidableEq

/-- The wording of a page error. -/
def PageError.message : PageError → String
  | launch text => "Failed to launch browser: " ++ text
  | timeout text => text
  | noElement selector => "No element matches selector " ++ selector
  | protocol text => "Protocol error: " ++ text
  | unsupported method => "Unsupported page method: " ++ method
  | file error => error.message

/-- The error of a selector that did not appear in time. -/
def PageError.selectorTimeout (selector : String) (milliseconds : Nat) : PageError :=
  .timeout ("Waiting for selector `" ++ selector ++ "` failed: timeout " ++ toString milliseconds ++
    "ms exceeded")

/-! ### Actions -/

/-- Why an action fails. -/
inductive ActionError where
  /-- The parameters break rules, which are listed line by line. -/
  | invalidParams (action details : String)
  | selector (action selector : String) (reason : Option String)
  | network (action url reason : String)
  | file (action operation path : String) (error : FileError)
  | condition (action : String) (error : ConditionError)
  | unknownAction (name : String)
  | failed (action text : String)
  /-- The failures of the deferred actions of a run. -/
  | deferred (errors : List ActionError)
  deriving Repr

namespace ActionError

/-- A reason in brackets, if there is one. -/
def reasonText : Option String → String
  | some r => " (" ++ r ++ ")"
  | none => ""

mutual

/-- The wording of an action error. -/
def message : ActionError → String
  | invalidParams action details => "[" ++ action ++ "] Validation failed:\n" ++ details
  | selector action wanted reason =>
    "[" ++ action ++ "] Selector not found or not visible: " ++ wanted ++ reasonText reason
  | network action url reason =>
    "[" ++ action ++ "] Network request failed: " ++ url ++ " (" ++ reason ++ ")"
  | file action operation path error =>
    "[" ++ action ++ "] File system " ++ operation ++ " failed: " ++ path ++ " (" ++ error.message ++
      ")"
  | condition action error => "[" ++ action ++ "] " ++ error.message
  | unknownAction name => "Unknown action: \"" ++ name ++ "\""
  | failed action text => "[" ++ action ++ "] " ++ text
  | deferred errors =>
    toString errors.length ++ " deferred action(s) failed: " ++ "; ".intercalate (messages errors)

/-- The wordings of a list of errors. -/
def messages : List ActionError → List String
  | [] => []
  | e :: rest => message e :: messages rest

end

/-- The wording of an error followed by the wording of the error behind it, if there is one. -/
def chain (e : ActionError) : String :=
  match e with
  | file _ _ _ error => e.message ++ ": " ++ error.message
  | condition _ error => e.message ++ ": " ++ error.message
  | _ => e.message

end ActionError

/-! ### Recipes -/

/-- Why no recipe can be run. -/
inductive ConfigError where
  | noRecipes
  | unknownRecipe (name : String)
  | duplicateAction (name : String)
  | invalidRecipe (name details : String)
  | file (path : String) (error : FileError)
  deriving Repr, DecidableEq

/-- The wording of a configuration error. -/
def ConfigError.message : ConfigError → String
  | noRecipes => "No grabs found nor provided"
  | unknownRecipe name => "Grab " ++ name ++ " not found"
  | duplicateAction name => "Action " ++ name ++ " already exists"
  | invalidRecipe name details => "Invalid grab " ++ name ++ ":\n" ++ details
  | file path error => "Cannot read " ++ path ++ ": " ++ error.message

end WebRecipe
