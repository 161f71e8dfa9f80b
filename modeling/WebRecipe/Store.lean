import WebRecipe.Json.Basic
import WebRecipe.Placeholder

/-!
# The store of a run

What a run remembers: values under names, the open pages under labels, and which page is active. The
labels are sorted. Pages are no values: two names show the pages to readers and ignore writes.

Indentation, payload id and the two directories of a run are values under reserved names.

Actions read and change the store in single accesses. Each one happens as a whole: nothing comes
between its parts.
-/

namespace WebRecipe

/-- A page that was opened, by its number. -/
abbrev PageId := Nat

/-! ### Reserved names -/

namespace Key

/-- The parameters of the action that was announced last. -/
def params : String := "PARAMS"

/-- The value that actions hand on. -/
def input : String := "INPUT"

/-- The labels of the open pages. -/
def pages : String := "PAGES"

/-- The label of the active page. -/
def activePage : String := "ACTIVE_PAGE"

/-- The directory of a recipe. -/
def baseDir : String := "BASE_DIR"

/-- The directory in which actions work. -/
def currentDir : String := "CURRENT_DIR"

/-- The indentation of output lines. -/
def indent : String := "INDENT"

/-- The id that marks the output of a run. -/
def payloadId : String := "PAYLOAD_ID"

/-- The names that are views of the pages. -/
def isPageView (key : String) : Bool :=
  key == pages || key == activePage

end Key

/-- The label of the page that a run starts with. -/
def defaultPageLabel : String := "default"

/-- How far a block is indented. -/
def indentStep : Nat := 2

/-- What the variables of the environment that are put into a store start with. -/
def seedMark : String := "GRABBER_"

/-- The store of a run. -/
structure Store where
  values : Members := []
  pages : List (String × PageId) := []
  activePage : Option PageId := none
  deriving Repr, Inhabited

namespace Store

/-! ### Values -/

/-- Puts a value under a name; the names of the page views are left alone. -/
def put (s : Store) (key : String) (value : Json) : Store :=
  if Key.isPageView key then s else { s with values := Members.set s.values key value }

/-- The label of the active page: the first one under which it is open. -/
def activeLabel? (s : Store) : Option String :=
  s.activePage.bind (fun p ↦ (s.pages.find? (fun entry ↦ entry.2 == p)).map Prod.fst)

/-- The value under a name. -/
def get? (s : Store) (key : String) : Option Json :=
  if key = Key.pages then some (.arr (s.pages.map (fun entry ↦ .str entry.1)))
  else if key = Key.activePage then s.activeLabel?.map Json.str
  else Members.get? s.values key

/-- Whether a value was put under a name. -/
def contains (s : Store) (key : String) : Bool :=
  (Members.get? s.values key).isSome

/-- The store without the value under a name. -/
def erase (s : Store) (key : String) : Store :=
  { s with values := s.values.filter (fun m ↦ m.1 != key) }

/-- What was put under a name, and the store without it. -/
def remove (s : Store) (key : String) : Option Json × Store :=
  (Members.get? s.values key, s.erase key)

/-- Changes the value that was put under a name, if there is one. -/
def update (s : Store) (key : String) (f : Json → Json) : Store :=
  match Members.get? s.values key with
  | some v => { s with values := Members.set s.values key (f v) }
  | none => s

/-- Appends to the array under a name. A value that is no array becomes its first item, and a missing
one leaves an array of the new item alone. -/
def push (s : Store) (key : String) (value : Json) : Store :=
  let items := match Members.get? s.values key with
    | some (.arr items) => items ++ [value]
    | some other => [other, value]
    | none => [value]
  { s with values := Members.set s.values key (.arr items) }

/-- The value that actions hand on. -/
def input (s : Store) : Option Json :=
  s.get? Key.input

/-- Hands a value on. -/
def setInput (s : Store) (value : Json) : Store :=
  s.put Key.input value

/-- A store with the marked variables of an environment, the mark cut off. -/
def seeded (env : List (String × String)) : Store :=
  env.foldl
    (fun s (name, value) ↦
      if seedMark.toList.isPrefixOf name.toList then
        let key := String.ofList (name.toList.drop seedMark.length)
        if key.isEmpty then s else s.put key (.str value)
      else s)
    {}

/-! ### Pages -/

/-- The pages with one more, in the order of their labels. -/
def insertSorted (label : String) (page : PageId) :
    List (String × PageId) → List (String × PageId)
  | [] => [(label, page)]
  | (l, p) :: rest =>
    if label < l then (label, page) :: (l, p) :: rest
    else if l = label then (label, page) :: rest
    else (l, p) :: insertSorted label page rest

/-- Opens a page under a label; a page that was there is replaced. -/
def insertPage (s : Store) (label : String) (page : PageId) : Store :=
  { s with pages := insertSorted label page s.pages }

/-- The page under a label. -/
def page? (s : Store) (label : String) : Option PageId :=
  s.pages.lookup label

/-- The page under a label, and the store without the label. The page is no longer active. -/
def removePage (s : Store) (label : String) : Option PageId × Store :=
  match s.page? label with
  | none => (none, s)
  | some p =>
    (some p,
      { s with
        pages := s.pages.filter (fun entry ↦ entry.1 != label)
        activePage := if s.activePage = some p then none else s.activePage })

/-- Makes the page under a label the active one, if there is one. -/
def activatePage (s : Store) (label : String) : Bool × Store :=
  match s.page? label with
  | none => (false, s)
  | some p => (true, { s with activePage := some p })

/-- The pages with their labels, and the store without them. -/
def takePages (s : Store) : List (String × PageId) × Store :=
  (s.pages, { s with pages := [], activePage := none })

/-! ### Reserved values -/

/-- The indentation of output lines. -/
def indent (s : Store) : Nat :=
  ((s.get? Key.indent).bind Json.asNat?).getD 0

/-- Sets the indentation. -/
def setIndent (s : Store) (n : Nat) : Store :=
  s.put Key.indent (.int n)

/-- Indents by a block more. -/
def indentIn (s : Store) : Store :=
  s.setIndent (s.indent + indentStep)

/-- Indents by a block less. -/
def indentOut (s : Store) : Store :=
  s.setIndent (s.indent - indentStep)

/-- The text under a name. -/
def text? (s : Store) (key : String) : Option String :=
  (s.get? key).bind Json.asStr?

/-- The directory of the recipe. -/
def baseDir (s : Store) : Option String := s.text? Key.baseDir

/-- The directory in which actions work. -/
def currentDir (s : Store) : Option String := s.text? Key.currentDir

/-- The id that marks the output of the run. -/
def payloadId (s : Store) : Option String := s.text? Key.payloadId

/-- Sets the directory of the recipe. -/
def setBaseDir (s : Store) (dir : String) : Store :=
  s.put Key.baseDir (.str dir)

/-- Sets the directory in which actions work. -/
def setCurrentDir (s : Store) (dir : String) : Store :=
  s.put Key.currentDir (.str dir)

end Store

/-! ### Accesses -/

/-- A single access to the store. -/
inductive StoreAccess where
  | get (key : String)
  | put (key : String) (value : Json)
  | remove (key : String)
  | push (key : String) (value : Json)
  /-- The parameters with their placeholders replaced by what the store holds. -/
  | resolve (params : Members)
  | setIndent (indent : Nat)
  | indentIn
  | indentOut
  | insertPage (label : String) (page : PageId)
  | page (label : String)
  | removePage (label : String)
  | activatePage (label : String)
  | activePage
  | takePages

namespace StoreAccess

/-- The type of what an access yields. -/
def Reply : StoreAccess → Type
  | get _ => Option Json
  | put .. => Unit
  | remove _ => Option Json
  | push .. => Unit
  | resolve _ => Members
  | setIndent _ => Unit
  | indentIn => Unit
  | indentOut => Unit
  | insertPage .. => Unit
  | page _ => Option PageId
  | removePage _ => Option PageId
  | activatePage _ => Bool
  | activePage => Option PageId
  | takePages => List (String × PageId)

/-- What an access yields, and the store after it. -/
def answer (s : Store) : (a : StoreAccess) → a.Reply × Store
  | get key => (s.get? key, s)
  | put key value => ((), s.put key value)
  | remove key => s.remove key
  | push key value => ((), s.push key value)
  | resolve params => (Placeholder.resolveMembers s.get? params, s)
  | setIndent n => ((), s.setIndent n)
  | indentIn => ((), s.indentIn)
  | indentOut => ((), s.indentOut)
  | insertPage label p => ((), s.insertPage label p)
  | page label => (s.page? label, s)
  | removePage label => s.removePage label
  | activatePage label => s.activatePage label
  | activePage => (s.activePage, s)
  | takePages => s.takePages

end StoreAccess
end WebRecipe
