import WebRecipe.Action.Builtin
import WebRecipe.CommandLine.Basic

/-!
# The command line

Does a command as far as no browser is needed. The names of the files in the recipe directory come
from standard input, one on a line.
-/

namespace WebRecipe.CommandLine

private partial def readNames (input : IO.FS.Stream) : IO (List String) := do
  let line ← input.getLine
  if line.isEmpty then return []
  return Text.trimmed line :: (← readNames input)

private def readFile? (path : String) : IO (Option ByteArray) := do
  try return some (← IO.FS.readBinFile path)
  catch _ => return none

/-- The environment file of the working directory or of a directory around it. -/
private def environmentFile? : (levels : Nat) → (path : String) → IO (Option ByteArray)
  | 0, _ => return none
  | levels + 1, path => do
    match ← readFile? path with
    | some content => return some content
    | none => environmentFile? levels ("../" ++ path)

/-- The variables that a text may mention, and the ones that settings come from, with their values. -/
private def environmentFor (text : ByteArray) : IO Environment := do
  let words := ((String.fromUTF8? text).getD "").split (!Unicode.isAlphanumeric ·)
  let mut env := []
  for name in Settings.variableNames ++ words.toList.map (·.toString) do
    if let some value ← IO.getEnv name then env := (name, value) :: env
  return env

/-- Puts the recipe directory and the files in it into a file system. -/
private def addRecipes (fs : FileSystem) (dir : String) : IO FileSystem := do
  try
    return (fs.write dir (← IO.FS.readBinFile dir)).2
  catch
    | .noFileOrDirectory .. => return fs
    | _ =>
      let mut filled := (fs.createDirAll dir).2
      for name in ← readNames (← IO.getStdin) do
        if let some content ← readFile? (Path.join dir name) then
          filled := (filled.write (Path.join dir name) content).2
      return filled

private def finish (result : Outcome) : IO UInt32 := do
  for line in result.lines do IO.println line
  return result.code.toUInt32

end WebRecipe.CommandLine

open WebRecipe CommandLine in
def main (args : List String) : IO UInt32 := do
  let file ← environmentFile? 64 ".env"
  let env := EnvironmentFile.read (← environmentFor (file.getD ByteArray.empty))
    (file.getD ByteArray.empty)
  match Command.ofArguments env args with
  | .error stop => finish stop.outcome
  | .ok command =>
    let fs ← if command.has .server then pure {} else addRecipes {} command.settings.recipesDir
    let (outcome, task) := command.perform Action.builtinRegistry.contains fs
    match task with
    | .none => pure ()
    | _ => IO.eprintln "Error: Failed to start the browser"
    finish (withoutBrowser (outcome, task))
