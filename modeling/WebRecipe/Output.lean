/-!
# Lines of output

How a line of output looks: blanks as deep as it is nested, the id of the request that it belongs to
when there is one, and its text.
-/

namespace WebRecipe.Output

/-- A line at an indentation. -/
def line (indent : Nat) (payloadId : Option String) (text : String) : String :=
  let mark := match payloadId with
    | some id => id ++ ": "
    | none => ""
  String.ofList (List.replicate indent ' ') ++ mark ++ text

/-- A line that reports an error; it is never indented. -/
def errorLine (payloadId : Option String) (message : String) : String :=
  line 0 payloadId ("ERROR: " ++ message)

end WebRecipe.Output
