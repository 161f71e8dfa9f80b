import WebRecipe.Text.Blank
import WebRecipe.Text.Search

/-!
# Paths

A path is a text of components between slashes; one that begins with a slash is absolute. Empty
components do not count, nor do those that are a dot, unless a relative path begins with it. Two paths
are the same, and one is inside another, by their components.

A path is normalized by looking at its text alone: a dot is dropped, and two dots take away the
component before them. At the root and at the beginning of a relative path two dots stay, and they are
themselves a component that further dots take away.
-/

namespace WebRecipe.Path

/-! ### Components -/

/-- A component of a path. -/
inductive Component where
  | root
  /-- The dot that a relative path begins with. -/
  | here
  /-- Two dots. -/
  | up
  | name (text : List Char)
  deriving Repr, DecidableEq

/-- The component that a piece between two slashes is, if it counts. -/
def Component.ofPiece : List Char → Option Component
  | [] => none
  | ['.'] => none
  | ['.', '.'] => some .up
  | cs => some (.name cs)

/-- The text of a component that follows others. -/
def Component.text : Component → List Char
  | .root => []
  | .here => ['.']
  | .up => ['.', '.']
  | .name cs => cs

/-- The components of a path. -/
def components (path : String) : List Component :=
  match path.toList with
  | '/' :: rest => .root :: (Text.splitChar '/' rest).filterMap Component.ofPiece
  | cs =>
    match Text.splitChar '/' cs with
    | ['.'] :: rest => .here :: rest.filterMap Component.ofPiece
    | pieces => pieces.filterMap Component.ofPiece

/-- The text of components that follow one another. -/
def between : List Component → List Char
  | [] => []
  | [c] => c.text
  | c :: rest => c.text ++ '/' :: between rest

/-- The path that consists of the components. -/
def ofComponents : List Component → String
  | .root :: rest => String.ofList ('/' :: between rest)
  | cs => String.ofList (between cs)

/-- Whether a path begins at the root. -/
def isAbsolute (path : String) : Bool :=
  path.toList.head? == some '/'

/-- Whether two paths have the same components. -/
def same (p q : String) : Bool :=
  components p == components q

/-- Whether a path is `root` or inside it. -/
def isWithin (root path : String) : Bool :=
  (components root).isPrefixOf (components path)

/-! ### Combining paths -/

/-- A path as seen from a directory. An absolute path is itself. -/
def join (dir path : String) : String :=
  if isAbsolute path then path
  else if dir.isEmpty || dir.toList.getLast? == some '/' then dir ++ path
  else dir ++ "/" ++ path

/-- The components, last first, with one more component taken into account. -/
def pushResolved (stack : List Component) : Component → List Component
  | .here => stack
  | .up =>
    match stack with
    | [] => [.up]
    | .root :: _ => .up :: stack
    | _ :: below => below
  | c => c :: stack

/-- The components without dots, and without two dots wherever they can be resolved. -/
def resolved (cs : List Component) : List Component :=
  (cs.foldl pushResolved []).reverse

/-- The path without dots, and without two dots wherever they can be resolved. -/
def normalize (path : String) : String :=
  ofComponents (resolved (components path))

/-- The normalized path that a path seen from the working directory is. -/
def absolute (workingDir path : String) : String :=
  normalize (join workingDir path)

/-- The normalized path that a path seen from a directory is, if it does not leave `root`. -/
def confine (root dir path : String) : Option String :=
  let candidate := normalize (join dir path)
  if isWithin root candidate then some candidate else none

/-- Where each piece that counts as a component ends, the first piece beginning at `start`. -/
def ends (start : Nat) (dotCounts : Bool) : List (List Char) → List Nat
  | [] => []
  | piece :: rest =>
    let stop := start + piece.length
    let counts := (Component.ofPiece piece).isSome || (dotCounts && piece == ['.'])
    if counts then stop :: ends (stop + 1) false rest else ends (stop + 1) false rest

/-- The path up to its last component but one. The root and the empty path have no parent. -/
def parent? (path : String) : Option String :=
  let cs := path.toList
  let (top, stops) := match cs with
    | '/' :: rest => (1, ends 1 false (Text.splitChar '/' rest))
    | _ => (0, ends 0 true (Text.splitChar '/' cs))
  match stops.reverse with
  | [] => none
  | [_] => some (String.ofList (cs.take top))
  | _ :: stop :: _ => some (String.ofList (cs.take stop))

/-- One level up from `current`, but never out of `base`. -/
def parentWithin (base current : String) : String :=
  if same current base then base
  else
    match parent? current with
    | some p => if isWithin base p then p else base
    | none => base

/-! ### Names -/

/-- The characters other than letters and digits that may stand in the name of a file. -/
def allowedMarks : List Char := "-_.:?@(), +!#$%&*;|'\"=<>^".toList

/-- Whether a character may stand in the name of a file. -/
def isAllowed (c : Char) : Bool :=
  ('a' ≤ c && c ≤ 'z') || ('A' ≤ c && c ≤ 'Z') || ('0' ≤ c && c ≤ '9') || allowedMarks.contains c

/-- A name without the characters that are not allowed, and then without blanks at its ends. -/
def sanitize (name : String) : String :=
  String.ofList (Text.trim (name.toList.filter isAllowed))

/-- The directory of a name inside `parent`, if the sanitized name is a name at all. -/
def child? (parent name : String) : Option String :=
  let cleaned := sanitize name
  if cleaned = "" ∨ cleaned = "." ∨ cleaned = ".." then none else some (join parent cleaned)

/-- The text from its last dot on; nothing when it has no dot. -/
def suffixFrom : List Char → List Char
  | [] => []
  | c :: rest =>
    match suffixFrom rest with
    | [] => if c = '.' then c :: rest else []
    | found => found

/-- What a file name ends in, from its last dot on; nothing when it has none but its first
character. -/
def extension (path : String) : String :=
  match (Text.splitChar '/' path.toList).getLast? with
  | some (_ :: rest) => String.ofList (suffixFrom rest)
  | _ => ""

end WebRecipe.Path
