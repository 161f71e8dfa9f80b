import WebRecipe.Files
import WebRecipe.Settings
import WebRecipe.Unicode.Character
import WebRecipe.Text.Search

/-!
# Environment files

A file of lines that each set a variable, as `NAME=value` or `export NAME=value`. Empty lines and
lines that begin with `#` say nothing. In a value single quotes keep everything as it is; outside of
them a backslash keeps the next character and a dollar sign puts in the value of a variable. A blank
outside of quotes ends the value.

A variable that has a value already keeps it. The first line that cannot be read ends the file.
-/

namespace WebRecipe.EnvironmentFile

/-! ### Values -/

/-- What stands between the quotes where a value is read. -/
inductive Quotes where
  | none
  | single
  | double
  deriving DecidableEq

/-- Where a reader of a value is. -/
inductive State where
  | text
  /-- Just after a backslash. -/
  | escaped
  /-- In the name of a variable after a dollar sign, last character first. -/
  | name (done : List Char)
  /-- In the name of a variable in braces, last character first. -/
  | braced (done : List Char)
  /-- After the blank that ends the value. -/
  | ended

private def openBrace : Char := '\x7b'

private def closeBrace : Char := '\x7d'

private def apostrophe : Char := '\x27'

/-- The value of a variable, put after a text, last character first. -/
def substitute (env : Environment) (name done : List Char) : List Char :=
  ((env.get? (String.ofList name.reverse)).getD "").toList.reverse ++ done

/-- The character that an escaped one stands for. -/
def unescape? (c : Char) : Option Char :=
  if c == 'n' then some '\n'
  else if c == '\\' || c == apostrophe || c == '"' || c == '$' || c == ' ' then some c
  else Option.none

/-- Reads a value; `done` is what was read of it, last character first. -/
def value? (env : Environment) (quotes : Quotes) (done : List Char) :
    State → List Char → Option String
  | .name name, [] =>
    if quotes = .none then some (String.ofList (substitute env name done).reverse) else Option.none
  | .braced _, [] => Option.none
  | _, [] => if quotes = .none then some (String.ofList done.reverse) else Option.none
  | .ended, c :: rest =>
    if c == ' ' || c == '\t' then value? env quotes done .ended rest
    else if c == '#' then some (String.ofList done.reverse)
    else Option.none
  | .escaped, c :: rest =>
    match unescape? c with
    | some x => value? env quotes (x :: done) .text rest
    | Option.none => Option.none
  | .name name, c :: rest =>
    if Unicode.isAlphanumeric c then value? env quotes done (.name (c :: name)) rest
    else if c == openBrace && name.isEmpty then value? env quotes done (.braced []) rest
    else
      let filled := substitute env name done
      if c == '$' then value? env quotes filled (.name []) rest
      else value? env quotes (c :: filled) .text rest
  | .braced name, c :: rest =>
    if c == closeBrace then value? env quotes (substitute env name done) .text rest
    else value? env quotes done (.braced (c :: name)) rest
  | .text, c :: rest =>
    match quotes with
    | .single =>
      if c == apostrophe then value? env .none done .text rest
      else value? env .single (c :: done) .text rest
    | .double =>
      if c == '$' then value? env .double done (.name []) rest
      else if c == '"' then value? env .none done .text rest
      else if c == '\\' then value? env .double done .escaped rest
      else value? env .double (c :: done) .text rest
    | .none =>
      if c == '$' then value? env .none done (.name []) rest
      else if c == apostrophe then value? env .single done .text rest
      else if c == '"' then value? env .double done .text rest
      else if c == '\\' then value? env .none done .escaped rest
      else if c == ' ' || c == '\t' then value? env .none done .ended rest
      else value? env .none (c :: done) .text rest

/-! ### Lines -/

private def isNameStart (c : Char) : Bool :=
  ('a' ≤ c && c ≤ 'z') || ('A' ≤ c && c ≤ 'Z') || c == '_'

private def isNamePart (c : Char) : Bool :=
  isNameStart c || ('0' ≤ c && c ≤ '9') || c == '.'

/-- The name that a text begins with, and the text after it and after blanks. -/
def name? (cs : List Char) : Option (List Char × List Char) :=
  if cs.head?.any isNameStart then
    some (cs.takeWhile isNamePart, Text.trimLeft (cs.dropWhile isNamePart))
  else none

/-- The text after an equals sign and blanks. -/
def afterEquals? : List Char → Option (List Char)
  | '=' :: rest => some (Text.trimLeft rest)
  | _ => none

/-- The variable that a line sets and the text of its value; the word `export` may come first. -/
def assignment? (cs : List Char) : Option (String × List Char) := do
  let (name, rest) ← name? cs
  match afterEquals? rest with
  | some value => return (String.ofList name, value)
  | none =>
    if name == "export".toList then
      let (exported, left) ← name? rest
      return (String.ofList exported, ← afterEquals? left)
    else none

/-- Whether nothing is said in a text without blanks before it. -/
private def isSilent (cs : List Char) : Bool :=
  cs.isEmpty || cs.head? == some '#'

/-- The environment with a variable, unless it has a value already. -/
def addNew (env : Environment) (name value : String) : Environment :=
  if (env.get? name).isSome then env else env ++ [(name, value)]

/-- The environment after a line; `none` if the line cannot be read. -/
def readLine? (env : Environment) (line : List Char) : Option Environment :=
  let said := Text.trim line
  if isSilent said then some env
  else do
    let (name, text) ← assignment? said
    if isSilent text then return addNew env name ""
    else return addNew env name (← value? env .none [] .text text)

/-- The environment after lines, up to the first that cannot be read. -/
def readLines (env : Environment) : List (List Char) → Environment
  | [] => env
  | line :: rest =>
    match readLine? env line with
    | some next => readLines next rest
    | none => env

/-- The environment after a file, as far as it is text. -/
def read (env : Environment) (content : ByteArray) : Environment :=
  let lines := (splitLines content.toList).map fun bytes ↦ String.fromUTF8? ⟨bytes.toArray⟩
  readLines env ((lines.takeWhile Option.isSome).map fun line ↦ (line.getD "").toList)
where
  /-- The lines of a text in bytes. -/
  splitLines : List UInt8 → List (List UInt8)
    | [] => []
    | b :: rest =>
      if b = 10 then [] :: splitLines rest
      else
        match splitLines rest with
        | [] => [[b]]
        | line :: more => (b :: line) :: more

/-! ### Finding the file -/

/-- The name of an environment file. -/
def fileName : List Char := ".env".toList

/-- The environment file of a directory, or else of the nearest directory around it. -/
def inOrAbove? (fs : FileSystem) : (dirsInnermostFirst : Location) → Option ByteArray
  | [] => fileIn []
  | name :: outer =>
    match fileIn (name :: outer) with
    | some content => some content
    | none => inOrAbove? fs outer
where
  /-- The file in the directory with these names, the innermost first. -/
  fileIn (names : Location) : Option ByteArray :=
    match fs.entryAt? (names.reverse ++ [fileName]) with
    | some (.file content) => some content
    | _ => none

/-- The environment with what the environment file of the working directory says. -/
def apply (fs : FileSystem) (env : Environment) : Environment :=
  match inOrAbove? fs fs.workingDir.reverse with
  | some content => read env content
  | none => env

end WebRecipe.EnvironmentFile
