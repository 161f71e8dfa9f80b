import WebRecipe.Json.Printer
import WebRecipe.Number.Binary64

/-!
# Schemas

A schema is a rule for a JSON value. Checking a value gives an issue for every part of the schema
that it breaks: the path of the place and a message. The issues of an object come in the order of its
declared properties, with the missing ones after or before them as the schema says; those of one
value come as: type, then limits or choices.
-/

namespace WebRecipe

/-- A broken rule and the place where it is broken. -/
structure Issue where
  path : String
  message : String
  deriving Repr, DecidableEq

namespace Issue

/-- An issue as a line of a message. -/
def line (i : Issue) : String :=
  "  - " ++ i.path ++ ": " ++ i.message

/-- Issues as the lines of a message. -/
def lines (is : List Issue) : String :=
  "\n".intercalate (is.map line)

/-- A path followed by another, with a point between two that are not empty. -/
def joinPath (a b : String) : String :=
  if a.isEmpty then b else if b.isEmpty then a else a ++ "." ++ b

/-- The issue with a path put before its own. -/
def under (path : String) (i : Issue) : Issue :=
  { i with path := joinPath path i.path }

/-- The issue with a name for the place of the whole value. -/
def nameRoot (name : String) (i : Issue) : Issue :=
  if i.path.isEmpty then { i with path := name } else i

end Issue

/-- A rule for a JSON value. -/
inductive Schema where
  | any
  | text (minLength : Nat)
  /-- A name of one or more letters, digits, underscores and hyphens. -/
  | name
  | choice (options : List String)
  | boolean
  | number
  | integer (least greatest default : Option Int)
  | object (properties : List (String × Schema)) (required : List String) (missingFirst : Bool)
  | array (minItems : Nat) (item : Schema)
  deriving Repr

namespace Schema

/-- The issue of a value of another type. -/
def typeIssue (v : Json) (type : String) : List Issue :=
  [⟨"", v.compact ++ " is not of type \"" ++ type ++ "\""⟩]

/-- The issue of a text that is too short. -/
def lengthIssue (minLength : Nat) (s : String) : List Issue :=
  if s.length < minLength then
    [⟨"", Json.quote s ++ " is shorter than " ++ toString minLength ++
      (if minLength = 1 then " character" else " characters")⟩]
  else []

/-- Whether a character may stand in a name. -/
def isNameChar (c : Char) : Bool :=
  c.isAlphanum || c == '_' || c == '-'

/-- The pattern of names, as messages show it. -/
def namePattern : String := "^[a-zA-Z0-9_-]+$"

/-- Whether a text is a name. -/
def isName (s : String) : Bool :=
  !s.isEmpty && s.toList.all isNameChar

/-- The issue of a text that is no name. -/
def nameIssue (s : String) : List Issue :=
  if isName s then [] else [⟨"", Json.quote s ++ " does not match \"" ++ namePattern ++ "\""⟩]

/-- Whether a value is a number. -/
def isNumber : Json → Bool
  | .int _ => true
  | .double _ => true
  | _ => false

/-- Whether a value is a whole number. -/
def isInteger : Json → Bool
  | .int _ => true
  | .double x => Double.isWhole x
  | _ => false

/-- Whether a number is below a limit. -/
def isBelow (v : Json) (limit : Int) : Bool :=
  match v with
  | .int n => n < limit
  | .double x => x < Float.ofInt limit
  | _ => false

/-- Whether a number is above a limit. -/
def isAbove (v : Json) (limit : Int) : Bool :=
  match v with
  | .int n => n > limit
  | .double x => x > Float.ofInt limit
  | _ => false

/-- The issue of a number below the least one. -/
def leastIssue (v : Json) : Option Int → List Issue
  | some limit =>
    if isBelow v limit then
      [⟨"", v.compact ++ " is less than the minimum of " ++ toString limit⟩]
    else []
  | none => []

/-- The issue of a number above the greatest one. -/
def greatestIssue (v : Json) : Option Int → List Issue
  | some limit =>
    if isAbove v limit then
      [⟨"", v.compact ++ " is greater than the maximum of " ++ toString limit⟩]
    else []
  | none => []

/-- The issue of a value that is not on a list. -/
def choiceIssue (options : List String) (v : Json) : List Issue :=
  let listed := match v with
    | .str s => options.contains s
    | _ => false
  if listed then []
  else [⟨"", v.compact ++ " is not one of " ++ (Json.arr (options.map .str)).compact⟩]

/-- The issues of required members that are missing. -/
def missingIssues (required : List String) (ms : Members) : List Issue :=
  (required.filter (fun key ↦ !Members.has ms key)).map
    (fun key ↦ ⟨"", Json.quote key ++ " is a required property"⟩)

/-- The issue of an array that is too short. -/
def sizeIssue (minItems : Nat) (items : List Json) : List Issue :=
  if items.length < minItems then
    [⟨"", (Json.arr items).compact ++ " has less than " ++ toString minItems ++
      (if minItems = 1 then " item" else " items")⟩]
  else []

mutual

/-- The issues of a value. -/
def check : Schema → Json → List Issue
  | any, _ => []
  | text minLength, v =>
    match v with
    | .str s => lengthIssue minLength s
    | _ => typeIssue v "string"
  | name, v =>
    match v with
    | .str s => lengthIssue 1 s ++ nameIssue s
    | _ => typeIssue v "string"
  | choice options, v =>
    (match v with
      | .str _ => []
      | _ => typeIssue v "string") ++ choiceIssue options v
  | boolean, v =>
    match v with
    | .bool _ => []
    | _ => typeIssue v "boolean"
  | number, v => if isNumber v then [] else typeIssue v "number"
  | integer least greatest _, v =>
    (if isInteger v then [] else typeIssue v "integer") ++ leastIssue v least ++
      greatestIssue v greatest
  | object properties required missingFirst, v =>
    match v with
    | .obj ms =>
      if missingFirst then missingIssues required ms ++ checkProperties properties ms
      else checkProperties properties ms ++ missingIssues required ms
    | _ => typeIssue v "object"
  | array minItems item, v =>
    match v with
    | .arr items =>
      sizeIssue minItems items ++
        (items.zipIdx.flatMap (fun (w, i) ↦ (check item w).map (Issue.under (toString i))))
    | _ => typeIssue v "array"

/-- The issues of the declared properties that an object has. -/
def checkProperties : List (String × Schema) → Members → List Issue
  | [], _ => []
  | (key, s) :: rest, ms =>
    (match Members.get? ms key with
      | some v => (check s v).map (Issue.under key)
      | none => []) ++ checkProperties rest ms

end

/-- The declared properties of an object. -/
def properties : Schema → List (String × Schema)
  | object ps _ _ => ps
  | _ => []

/-- The value that a missing property takes. -/
def default? : Schema → Option Json
  | integer _ _ d => d.map Json.int
  | _ => none

/-- The members with the missing properties that have a default. -/
def withDefaults (s : Schema) (ms : Members) : Members :=
  s.properties.foldl
    (fun ms (key, p) ↦
      match p.default? with
      | some d => if Members.has ms key then ms else Members.set ms key d
      | none => ms) ms

/-- The members that are declared. -/
def declaredOnly (s : Schema) (ms : Members) : Members :=
  ms.filter (fun m ↦ s.properties.any (fun p ↦ p.1 == m.1))

end Schema
end WebRecipe
