import WebRecipe.Action.Basic
import WebRecipe.Output
import WebRecipe.Path
import WebRecipe.Pattern.Match

/-!
# Actions on values

Waiting, showing a line, working on texts, and handing on values that come from outside.
-/

namespace WebRecipe.Action

/-- Waits. -/
def sleep : Handler := fun _ ps ↦ do
  let ms := (ps.integer "ms" 0).toNat
  display (": Sleeping " ++ toString ms ++ " ms")
  command (.sleep ms)

/-- Shows a line. -/
def log : Handler := fun _ ps ↦ do
  let message ← ofExcept (ps.text "log" "message")
  display (": " ++ message)

/-- Hands on a text without the characters that may not stand in a name. -/
def sanitizeString : Handler := fun _ ps ↦ do
  let text ← ofExcept (ps.text "sanitizeString" "string")
  setInput (.str (Path.sanitize text))

/-- Hands on a text with the first occurrence of another text replaced. -/
def replaceString : Handler := fun _ ps ↦ do
  let text ← ofExcept (ps.text "replaceString" "string")
  let search ← ofExcept (ps.text "replaceString" "search")
  let replacement ← ofExcept (ps.text "replaceString" "replace")
  setInput (.str
    (String.ofList (Text.replaceFirst search.toList replacement.toList text.toList)))

/-- The pattern that an action is given. -/
def readPattern (action source : String) : Except ActionError Pattern :=
  (Pattern.read source).mapError fun e ↦
    .failed action ("Invalid regular expression " ++ source ++ ": " ++ e.message)

/-- The text of a match. -/
def matchedText (text : List Char) (m : Pattern.Match) : String :=
  Pattern.slice text m.start m.stop

/-- Hands on the first match of a pattern in a text, or an empty text. -/
def matchFromString : Handler := fun _ ps ↦ do
  let text ← ofExcept (ps.text "matchFromString" "string")
  let source ← ofExcept (ps.text "matchFromString" "regex")
  let pattern ← ofExcept (readPattern "matchFromString" source)
  let cs := text.toList
  setInput (.str (((pattern.match? cs).map (matchedText cs)).getD ""))

/-- Hands on all matches of a pattern in the source of an element, or in one of its attributes. -/
def matchFromSelector : Handler := fun cx ps ↦ do
  let selector ← ofExcept (ps.text "matchFromSelector" "selector")
  let source ← ofExcept (ps.text "matchFromSelector" "regex")
  let pattern ← ofExcept (readPattern "matchFromSelector" source)
  let page ← ofExcept (cx.needPage "matchFromSelector")
  let found : Except PageError (Option String) ←
    command (.page page (.firstContent selector (ps.text? "attribute")))
  match found with
  | .ok (some content) =>
    let cs := content.toList
    setInput (.arr ((pattern.allMatches cs).map (fun m ↦ .str (matchedText cs m))))
  | _ =>
    display ": No element found"
    setInput (.arr ((pattern.allMatches []).map (fun _ ↦ .str "")))

/-- Hands on a whole number from one bound to another, both included. -/
def random : Handler := fun _ ps ↦ do
  let low := (ps.number? "min").getD 0.0
  let high := (ps.number? "max").getD 0.0
  display (": Generating random number between " ++ numberText low ++ " and " ++ numberText high)
  let roll : Float ← command .roll
  setInput (.ofDouble ((roll * (high - low + 1.0)).floor + low))

/-- Hands on a new id. -/
def uuid : Handler := fun _ _ ↦ do
  let id : String ← command .freshId
  setInput (.str id)
  display (": Generating uuid " ++ id)

/-- Hands on what a file name ends in. -/
def getExtension : Handler := fun _ ps ↦ do
  let text ← ofExcept (ps.text "getExtension" "string")
  setInput (.str (Path.extension text))

/-- Hands on a line that is typed on the console. -/
def userInput : Handler := fun _ ps ↦ do
  let query ← ofExcept (ps.text "userInput" "query")
  let depth := ((← get Key.indent).bind Json.asNat?).getD 0
  let reply ← command (.ask (Output.line depth none query))
  let answer ← orFail (fun e : FileError ↦ .failed "userInput" e.message) reply
  setInput (.str answer)

end WebRecipe.Action
