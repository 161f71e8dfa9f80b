import WebRecipe.Error
import WebRecipe.Path

/-!
# File systems

A tree of directories and files without links. A location is the list of the names that lead to it
from the root. A path leads to a location one component after another, and every directory on the way
has to exist.

Each operation says what becomes of the tree and whether it succeeded; a failed operation leaves the
tree as it was, except that directories that were made on the way stay. Actions ask for an operation
by a call, which has the type of its answer.
-/

namespace WebRecipe

/-- The names that lead from the root to a directory or file. -/
abbrev Location := List (List Char)

/-- What is at a location. -/
inductive FileEntry where
  | dir
  | file (content : ByteArray)

/-- A file system. The root and the working directory, from which relative paths start, always
exist. -/
structure FileSystem where
  entries : List (Location × FileEntry) := []
  workingDir : Location := []

namespace FileSystem

/-! ### Locations -/

/-- The longest name, in bytes. -/
def maxNameBytes : Nat := 255

/-- The length in bytes that a path must not reach. -/
def pathBytesLimit : Nat := 4096

/-- What is at a location. -/
def entryAt? (fs : FileSystem) (loc : Location) : Option FileEntry :=
  if loc.isEmpty then some .dir else fs.entries.lookup loc

/-- Whether a directory is at a location. -/
def isDirAt (fs : FileSystem) (loc : Location) : Bool :=
  match fs.entryAt? loc with
  | some .dir => true
  | _ => false

/-- The entries with the one at a location replaced, or added at the end. -/
def setEntry (loc : Location) (e : FileEntry) : List (Location × FileEntry) →
    List (Location × FileEntry)
  | [] => [(loc, e)]
  | (l, d) :: rest => if l = loc then (loc, e) :: rest else (l, d) :: setEntry loc e rest

/-- The file system with something at a location. -/
def put (fs : FileSystem) (loc : Location) (e : FileEntry) : FileSystem :=
  { fs with entries := setEntry loc e fs.entries }

/-- The file system without what is at a location and below it. -/
def removeTree (fs : FileSystem) (loc : Location) : FileSystem :=
  { fs with entries := fs.entries.filter (fun e ↦ !loc.isPrefixOf e.1) }

/-- Whether a name has too many bytes. -/
def isTooLong (name : List Char) : Bool :=
  maxNameBytes < (String.ofList name).utf8ByteSize

/-- Fails unless a directory is at a location. -/
def needDir (fs : FileSystem) (loc : Location) : Except FileError Unit :=
  match fs.entryAt? loc with
  | none => .error .notFound
  | some (.file _) => .error .notDirectory
  | some .dir => .ok ()

/-- The location that the components lead to from `loc`; what is there need not exist. -/
def walk (fs : FileSystem) (loc : Location) : List Path.Component → Except FileError Location
  | [] => .ok loc
  | .root :: rest => walk fs [] rest
  | .here :: rest => do
    fs.needDir loc
    walk fs loc rest
  | .up :: rest => do
    fs.needDir loc
    walk fs loc.dropLast rest
  | .name n :: rest => do
    fs.needDir loc
    if isTooLong n then .error .nameTooLong else walk fs (loc ++ [n]) rest

/-- Whether a text can be a path at all. -/
def checkText (path : String) : Except FileError Unit :=
  if path.toList.contains '\x00' then .error .nulInName
  else if pathBytesLimit ≤ path.utf8ByteSize then .error .nameTooLong
  else .ok ()

/-- The location of a path; what is there need not exist, but its directory does. -/
def locate (fs : FileSystem) (path : String) : Except FileError Location := do
  checkText path
  if path.isEmpty then .error .notFound else fs.walk fs.workingDir (Path.components path)

/-! ### Asking -/

/-- Whether a path leads to something. -/
def pathExists (fs : FileSystem) (path : String) : Bool :=
  match fs.locate path with
  | .ok loc => (fs.entryAt? loc).isSome
  | .error _ => false

/-- Whether a path leads to a directory. -/
def isDir (fs : FileSystem) (path : String) : Bool :=
  match fs.locate path with
  | .ok loc => fs.isDirAt loc
  | .error _ => false

/-- The bytes of a file. -/
def readBytes (fs : FileSystem) (path : String) : Except FileError ByteArray := do
  match fs.entryAt? (← fs.locate path) with
  | none => .error .notFound
  | some .dir => .error .isDirectory
  | some (.file content) => return content

/-- The text of a file. -/
def readText (fs : FileSystem) (path : String) : Except FileError String := do
  match String.fromUTF8? (← fs.readBytes path) with
  | some text => return text
  | none => .error .notText

/-- The name of what is at a location, if it is directly inside a directory. -/
def nameIn? (dir loc : Location) : Option (List Char) :=
  match loc.getLast? with
  | some n => if loc.dropLast = dir then some n else none
  | none => none

/-- The names in a directory, each with whether it is a directory itself. -/
def list (fs : FileSystem) (path : String) : Except FileError (List (String × Bool)) := do
  let loc ← fs.locate path
  match fs.entryAt? loc with
  | none => .error .notFound
  | some (.file _) => .error .notDirectory
  | some .dir =>
    return fs.entries.filterMap fun e ↦
      (nameIn? loc e.1).map fun n ↦ (String.ofList n, fs.isDirAt e.1)

/-! ### Changing -/

/-- The outcome of an operation, and the file system after it. -/
abbrev Change := Except FileError Unit × FileSystem

/-- Makes the directories that the components lead through from the directory `loc`. -/
def makeDirs (fs : FileSystem) (loc : Location) : List Path.Component → Change
  | [] => (.ok (), fs)
  | c :: rest =>
    match c with
    | .root => makeDirs fs [] rest
    | .here => makeDirs fs loc rest
    | .up => makeDirs fs loc.dropLast rest
    | .name n =>
      if isTooLong n then (.error .nameTooLong, fs)
      else
        match fs.entryAt? (loc ++ [n]) with
        | none => makeDirs (fs.put (loc ++ [n]) .dir) (loc ++ [n]) rest
        | some .dir => makeDirs fs (loc ++ [n]) rest
        | some (.file _) => (.error (if rest.isEmpty then .exists else .notDirectory), fs)

/-- Makes a directory and those that lead to it. -/
def createDirAll (fs : FileSystem) (path : String) : Change :=
  match checkText path with
  | .error e => (.error e, fs)
  | .ok () => fs.makeDirs fs.workingDir (Path.components path)

/-- Changes what is at the location of a path; nothing changes when that fails. -/
def changeAt (fs : FileSystem) (path : String)
    (change : Location → Option FileEntry → Except FileError FileSystem) : Change :=
  match (do change (← fs.locate path) (fs.entryAt? (← fs.locate path))) with
  | .ok changed => (.ok (), changed)
  | .error e => (.error e, fs)

/-- Removes a directory and what is in it. -/
def removeDirAll (fs : FileSystem) (path : String) : Change :=
  fs.changeAt path fun loc e? ↦
    match e? with
    | none => .error .notFound
    | some (.file _) => .error .notDirectory
    | some .dir => .ok (fs.removeTree loc)

/-- Removes a file. -/
def removeFile (fs : FileSystem) (path : String) : Change :=
  fs.changeAt path fun loc e? ↦
    match e? with
    | none => .error .notFound
    | some .dir => .error .isDirectory
    | some (.file _) => .ok (fs.removeTree loc)

/-- Writes a file anew. -/
def write (fs : FileSystem) (path : String) (content : ByteArray) : Change :=
  fs.changeAt path fun loc e? ↦
    match e? with
    | some .dir => .error .isDirectory
    | _ => .ok (fs.put loc (.file content))

/-- Writes at the end of a file, which is made when it is missing. -/
def append (fs : FileSystem) (path : String) (content : ByteArray) : Change :=
  fs.changeAt path fun loc e? ↦
    match e? with
    | some .dir => .error .isDirectory
    | some (.file old) => .ok (fs.put loc (.file (old ++ content)))
    | none => .ok (fs.put loc (.file content))

end FileSystem

/-! ### Calls -/

/-- A call of a file system. -/
inductive FileCall where
  | createDirAll (path : String)
  | isDir (path : String)
  | pathExists (path : String)
  | removeDirAll (path : String)
  | list (path : String)
  | readText (path : String)
  | write (path : String) (content : ByteArray)
  | append (path : String) (content : ByteArray)
  | removeFile (path : String)

namespace FileCall

/-- The type of the answer to a call that succeeds. -/
def Reply : FileCall → Type
  | createDirAll _ => Unit
  | isDir _ => Bool
  | pathExists _ => Bool
  | removeDirAll _ => Unit
  | list _ => List (String × Bool)
  | readText _ => String
  | write .. => Unit
  | append .. => Unit
  | removeFile _ => Unit

/-- The path that a call is about. -/
def path : FileCall → String
  | createDirAll p => p
  | isDir p => p
  | pathExists p => p
  | removeDirAll p => p
  | list p => p
  | readText p => p
  | write p _ => p
  | append p _ => p
  | removeFile p => p

/-- The answer of a file system to a call, and the file system after it. -/
def answer (fs : FileSystem) : (c : FileCall) → Except FileError c.Reply × FileSystem
  | createDirAll p => fs.createDirAll p
  | isDir p => (.ok (fs.isDir p), fs)
  | pathExists p => (.ok (fs.pathExists p), fs)
  | removeDirAll p => fs.removeDirAll p
  | list p => (fs.list p, fs)
  | readText p => (fs.readText p, fs)
  | write p content => fs.write p content
  | append p content => fs.append p content
  | removeFile p => fs.removeFile p

end FileCall
end WebRecipe
