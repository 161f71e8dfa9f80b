import WebRecipe.Action.Basic
import WebRecipe.Path
import WebRecipe.Text.Search

/-!
# Actions on files

Recipes work in a directory of their own, the base directory, and move a current directory in it. A
path that an action is given is seen from there and must not leave the base directory. A download goes
to the current directory, chunk by chunk. When the length of the file is known, every tenth of it is
announced as it is reached.
-/

namespace WebRecipe.Action

/-! ### Directories -/

/-- The base directory; without one an action that needs it fails. -/
def baseDir (action : String) : Action String := do
  match ← getText Key.baseDir with
  | some dir => return dir
  | none => throw (.failed action "No base directory set")

/-- The current directory, which is the base directory as long as none is set. -/
def currentDir (action : String) : Action String := do
  match ← getText Key.currentDir with
  | some dir => return dir
  | none => baseDir action

/-- A path seen from a directory, if it stays inside the base directory. -/
def confined (action dir path : String) : Action String := do
  let base ← baseDir action
  match Path.confine base dir path with
  | some p => return p
  | none => throw (.failed action ("Path " ++ path ++ " leaves the base directory"))

/-- A path seen from the current directory, if it stays inside the base directory. -/
def inCurrent (action path : String) : Action String := do
  confined action (← currentDir action) path

/-- The text file of a name in the current directory. -/
def textFile (action name : String) : Action String :=
  inCurrent action (name ++ ".txt")

/-- The directory that a path is seen from: the current one, or the base directory when the
parameters say so. -/
def startDir (action : String) (ps : Members) : Action String :=
  if ps.bool "useBaseDir" false then baseDir action else currentDir action

/-- Makes the directory of a recipe and begins to work in it. -/
def setBaseDir : Handler := fun cx ps ↦ do
  let dir ← ofExcept (ps.text "setBaseDir" "dir")
  match Path.child? (Path.absolute cx.settings.workingDir cx.settings.resourcesDir) dir with
  | none => throw (.failed "setBaseDir" ("Invalid directory name: " ++ dir))
  | some base =>
    let _ ← file "setBaseDir" "mkdir" (.createDirAll base)
    put Key.baseDir (.str base)
    put Key.currentDir (.str base)

/-- Works in another directory, which must exist. -/
def setCurrentDir : Handler := fun _ ps ↦ do
  let dir := Path.sanitize (← ofExcept (ps.text "setCurrentDir" "dir"))
  let target ← confined "setCurrentDir" (← startDir "setCurrentDir" ps) dir
  match ← tryFile (.isDir target) with
  | .ok true =>
    display (": Setting current dir to " ++ dir)
    put Key.currentDir (.str target)
  | _ => throw (.failed "setCurrentDir" ("Directory " ++ dir ++ " does not exist"))

/-- Works in the base directory again. -/
def resetCurrentDir : Handler := fun _ _ ↦ do
  put Key.currentDir (.str (← baseDir "resetCurrentDir"))

/-- Works one directory further up, but not above the base directory. -/
def backToParentDir : Handler := fun _ _ ↦ do
  let base ← baseDir "backToParentDir"
  let current ← currentDir "backToParentDir"
  put Key.currentDir (.str (Path.parentWithin base current))

/-- Makes a directory. -/
def createDir : Handler := fun _ ps ↦ do
  let dir := Path.sanitize (← ofExcept (ps.text "createDir" "dir"))
  display (": Creating directory " ++ dir)
  let target ← confined "createDir" (← startDir "createDir" ps) dir
  file "createDir" "mkdir" (.createDirAll target)

/-- Deletes a directory with all that is in it, unless it is the base directory. -/
def deleteFolder : Handler := fun _ ps ↦ do
  let name ← ofExcept (ps.text "deleteFolder" "foldername")
  let target ← inCurrent "deleteFolder" name
  display (": Deleting folder " ++ target)
  if Path.same target (← baseDir "deleteFolder") then
    throw (.failed "deleteFolder" "Refusing to delete the base directory")
  if ← pathExists target then
    file "deleteFolder" "rmdir" (.removeDirAll target)

/-- Hands on the names of the directories in the current one, in order. -/
def listFolders : Handler := fun _ _ ↦ do
  let current ← currentDir "listFolders"
  display (": Listing folders " ++ current)
  let found ← file "listFolders" "readdir" (.list current)
  let folders := (found.filter Prod.snd).map Prod.fst
  setInput (.arr ((folders.mergeSort (fun a b ↦ decide (a ≤ b))).map Json.str))

/-! ### Files -/

/-- Whether a value is an array. -/
def isList : Json → Bool
  | .arr _ => true
  | _ => false

/-- The text of a value in a file: an array has a line for each item. -/
def fileText : Json → String
  | .arr items => "\n".intercalate (items.map Json.text)
  | v => v.text

/-- Makes a file, or writes at its end when it is there. -/
def createFile : Handler := fun _ ps ↦ do
  let name ← ofExcept (ps.text "createFile" "filename")
  let path ← textFile "createFile" name
  display (": Creating file " ++ path)
  file "createFile" "open" (.append path ((ps.text? "content").getD "").toUTF8)

/-- Hands on the text of a file, as a whole or as the list of its lines. -/
def readFromText : Handler := fun _ ps ↦ do
  let name ← ofExcept (ps.text "readFromText" "filename")
  let path ← textFile "readFromText" name
  display (": Loading file " ++ path)
  let content ← file "readFromText" "read" (.readText path)
  if ps.bool "breakLine" false then
    setInput (.arr ((Text.splitChar '\n' content.toList).map (fun l ↦ .str (String.ofList l))))
  else setInput (.str content)

/-- Writes a variable to a file anew; an empty one is not written. -/
def saveToText : Handler := fun _ ps ↦ do
  let key ← ofExcept (ps.text "saveToText" "key")
  let name ← ofExcept (ps.text "saveToText" "filename")
  let value ← get key
  if Json.isTruthy value then
    let path ← textFile "saveToText" name
    display (": Saving " ++ path)
    file "saveToText" "write" (.write path ((value.map fileText).getD "").toUTF8)

/-- Writes a variable at the end of a file; an empty one is not written. A single value is a line. -/
def appendToText : Handler := fun _ ps ↦ do
  let key ← ofExcept (ps.text "appendToText" "key")
  let name ← ofExcept (ps.text "appendToText" "filename")
  match ← get key with
  | none => return ()
  | some value =>
    if Json.isTruthy (some value) then
      let content := if isList value then fileText value else value.text ++ "\n"
      let path ← textFile "appendToText" name
      display (": Appending to " ++ path)
      file "appendToText" "open" (.append path content.toUTF8)

/-- Deletes a file. -/
def deleteFile : Handler := fun _ ps ↦ do
  let name ← ofExcept (ps.text "deleteFile" "filename")
  let path ← textFile "deleteFile" name
  display (": Deleting file " ++ path)
  if ← pathExists path then
    file "deleteFile" "unlink" (.removeFile path)

/-- Hands on whether a file exists. -/
def fileExists : Handler := fun _ ps ↦ do
  let name ← ofExcept (ps.text "fileExists" "filename")
  let path ← inCurrent "fileExists" name
  display (": Checking if file exists " ++ path)
  setInput (.bool (← pathExists path))

/-- Hands on whether a text occurs in a file. -/
def checkStringInFile : Handler := fun _ ps ↦ do
  let name ← ofExcept (ps.text "checkStringInFile" "filename")
  let needle ← ofExcept (ps.text "checkStringInFile" "string")
  let path ← textFile "checkStringInFile" name
  display (": Checking if string is in file " ++ path)
  let content ← file "checkStringInFile" "read" (.readText path)
  setInput (.bool (Text.occursIn needle content))

/-! ### Downloads -/

/-- The address of a download; a relative one follows the host. -/
def downloadAddress (url : String) (host : Option String) : String :=
  if "http".toList.isPrefixOf url.toList then url else host.getD "" ++ url

/-- The last segment of the path of an address, without what a query or fragment adds. -/
def fileNameOf (url : String) : String :=
  let path := url.toList.takeWhile (fun c ↦ c != '?' && c != '#')
  String.ofList (((Text.splitChar '/' path).getLast?).getD path)

/-- The tenths of a total that are reached, in percent. -/
def reachedPercent (received total : Nat) : Nat :=
  min (received * 100 / total) 100 / 10 * 10

/-- Writes the chunks of a download to the end of a file. -/
def saveChunks (path : String) (total : Option Nat) :
    (received reported : Nat) → List ByteArray → Action Unit
  | _, _, [] => return ()
  | received, reported, chunk :: rest => do
    let _ ← file "download" "write" (.append path chunk)
    let received := received + chunk.size
    match total with
    | none => saveChunks path total received reported rest
    | some t =>
      let percent := reachedPercent received t
      if reported < percent then
        display (": " ++ toString percent ++ "% (" ++ toString received ++ "/" ++ toString t ++
          " bytes)")
        saveChunks path total received percent rest
      else saveChunks path total received reported rest

/-- The answer to a fetch, unless its status reports an error. -/
def refuse (url : Url) (r : Response) : Except FetchError Response :=
  if Response.isRefusal r.status then .error (.refused r.status url) else .ok r

/-- Fetches a file. -/
def download : Handler := fun _ ps ↦ do
  let url ← ofExcept (ps.text "download" "url")
  let name := (ps.text? "filename").getD (fileNameOf url)
  let targetName := Path.sanitize name
  if targetName.isEmpty then
    throw (.failed "download" ("Cannot derive a file name from " ++ url))
  let path ← inCurrent "download" targetName
  let address := downloadAddress url (ps.text? "host")
  display (": Downloading " ++ name)
  let failure (e : FetchError) : ActionError := .network "download" address e.message
  let target ← orFail failure (Url.fetchable address)
  let reply ← command (.fetch target)
  let response ← orFail failure (reply.bind (refuse target))
  let total := if ps.bool "showProgress" true then response.announced.filter (0 < ·) else none
  let _ ← file "download" "open" (.write path .empty)
  saveChunks path total 0 0 response.chunks
  if response.broken then throw (failure .interrupted)

end WebRecipe.Action
