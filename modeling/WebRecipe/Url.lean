import WebRecipe.Host.Basic
import WebRecipe.Text.Search

/-!
# Absolute URLs

Reading an absolute URL and writing it in its normal form. Blanks around a URL and line breaks and
tabs in it do not count. The schemes `http`, `https`, `ws`, `wss` and `ftp` need a host, and their hosts are
domains or addresses. A `file` may be on a host or on a drive. In the normal form the usual port of a
scheme is left out, paths are resolved, and characters that may not stand in a part of a URL are
percent-encoded.

A path consists of segments behind slashes. Its normal form has no segments `.` and `..`: the first one is
left out, and the second one takes the segment before with it, unless that names a drive. In the path of a
file, a drive as the first segment is written with a colon.
-/

namespace WebRecipe

/-! ### Paths of URLs -/

namespace Url

/-- Whether a segment stands for the place where it is. -/
def isHere (segment : List Char) : Bool :=
  [".", "%2e"].contains (String.ofList (segment.map Char.toLower))

/-- Whether a segment stands for the place above. -/
def isAbove (segment : List Char) : Bool :=
  ["..", ".%2e", "%2e.", "%2e%2e"].contains (String.ofList (segment.map Char.toLower))

/-- Whether a segment is the letter of a drive. -/
def isDrive : List Char → Bool
  | [c, d] => c.isAlpha && (d == ':' || d == '|')
  | _ => false

/-- Whether a segment is not taken away by one that stands for the place above it. -/
def isRooted (segment : List Char) : Bool :=
  isDrive (segment.takeWhile (· != '\\'))

/-- The segments that a segment becomes, if it is the first one in the path of a file. -/
def firstSegments : List Char → List (List Char)
  | [c, '|'] => if c.isAlpha then [[c, ':']] else [[c, '|']]
  | c :: ':' :: d :: rest => if c.isAlpha then [[c, ':'], d :: rest] else [c :: ':' :: d :: rest]
  | segment => [segment]

/-- The way to the place that a path has led to. The segments are reversed. -/
structure Trail where
  segments : List (List Char) := []
  /-- Whether the path began with a drive, which no host has. -/
  onDrive : Bool := false
  deriving Repr, DecidableEq

/-- The way to the place above. -/
def Trail.up (t : Trail) : Trail :=
  if t.segments.head?.any isRooted then t else { t with segments := t.segments.drop 1 }

/-- The way on through a segment. -/
def Trail.follow (isFile : Bool) (t : Trail) (segment : List Char) : Trail :=
  if isAbove segment then t.up
  else if isHere segment then t
  else if isFile && t.segments.isEmpty then
    ⟨(firstSegments segment).reverse, t.onDrive || isDrive segment⟩
  else { t with segments := segment :: t.segments }

/-- The way that some segments lead. It ends with an empty segment if the last one is left out. -/
def trail (isFile : Bool) (segments : List (List Char)) : Trail :=
  let t := segments.foldl (Trail.follow isFile) {}
  if segments.getLast?.any (fun s ↦ isHere s || isAbove s) then { t with segments := [] :: t.segments } else t

/-- Whether a character separates segments. -/
def isSlash (isSpecial : Bool) (c : Char) : Bool :=
  c == '/' || (isSpecial && c == '\\')

/-- Whether a character is not written as it is in a path. -/
def isEncodedInPath (c : Char) : Bool :=
  " \"#<>?\x60\x7b\x7d".toList.contains c

/-- The segments of a path; there may be a slash before the first one. -/
def segments (isSpecial : Bool) (cs : List Char) : List (List Char) :=
  let cs := cs.map fun c ↦ if isSlash isSpecial c then '/' else c
  Text.splitChar '/' (if cs.head? == some '/' then cs.drop 1 else cs)

/-- Segments as a path. -/
def pathText (segments : List (List Char)) : String :=
  "/" ++ "/".intercalate (segments.map fun s ↦ String.ofList (Percent.encode isEncodedInPath s))

end Url

/-! ### Parts of URLs -/

/-- A user name and a password; both are empty if there are none. -/
structure Credentials where
  user : String := ""
  password : String := ""
  deriving Repr, DecidableEq

/-- Whether there are neither a name nor a password. -/
def Credentials.isEmpty (c : Credentials) : Bool :=
  c.user.isEmpty && c.password.isEmpty

/-- The credentials as they stand before a host. -/
def Credentials.text (c : Credentials) : String :=
  if c.isEmpty then "" else c.user ++ (if c.password.isEmpty then "" else ":" ++ c.password) ++ "@"

/-- Whom a URL asks. -/
structure Authority where
  credentials : Credentials := {}
  host : Option Host
  port : Option Nat := none
  deriving Repr, DecidableEq

/-- An authority as text. -/
def Authority.text (a : Authority) : String :=
  a.credentials.text ++ (match a.host with | some h => h.text | none => "") ++
    (match a.port with | some p => ":" ++ toString p | none => "")

/-- An absolute URL in its normal form. -/
structure Url where
  scheme : String
  authority : Option Authority
  path : String
  query : Option String := none
  fragment : Option String := none
  deriving Repr, DecidableEq

namespace Url

/-- The host of a URL. -/
def host? (u : Url) : Option Host :=
  u.authority.bind Authority.host

/-- The URL as text. A path that could be taken for an authority follows a point. -/
def text (u : Url) : String :=
  let front := match u.authority with
    | some a => "//" ++ a.text
    | none => if "//".toList.isPrefixOf u.path.toList then "/." else ""
  u.scheme ++ ":" ++ front ++ u.path ++
    (match u.query with | some q => "?" ++ q | none => "") ++
    (match u.fragment with | some f => "#" ++ f | none => "")

/-- The URL for those who must not know the credentials: they are left out if they can be read. -/
def withoutCredentials (u : Url) : Url :=
  match u.authority with
  | none => u
  | some a =>
    let isText (s : String) : Bool := (Percent.decodeText? s.toList).isSome
    let c := a.credentials
    if isText c.user && (!c.user.isEmpty || (!c.password.isEmpty && isText c.password)) then
      { u with authority := some { a with credentials := {} } }
    else u

/-! ### Characters -/

/-- Whether a character is not written as it is in a fragment. -/
def isEncodedInFragment (c : Char) : Bool :=
  " \"<>\x60".toList.contains c

/-- Whether a character is not written as it is in a query. -/
def isEncodedInQuery (isSpecial : Bool) (c : Char) : Bool :=
  " \"#<>".toList.contains c || (isSpecial && c == '\x27')

/-- Whether a character is not written as it is in credentials. -/
def isEncodedInCredentials (c : Char) : Bool :=
  isEncodedInPath c || "/:;=@[\\]^|".toList.contains c

/-- Whether a character does not count anywhere. -/
def isNoise (c : Char) : Bool :=
  c == '\t' || c == '\n' || c == '\r'

/-- Whether a character does not count at the ends. -/
def isOuterBlank (c : Char) : Bool :=
  c.toNat ≤ 0x20

/-- The characters of a text that count. -/
def clean (cs : List Char) : List Char :=
  (((cs.dropWhile isOuterBlank).reverse.dropWhile isOuterBlank).reverse).filter (!isNoise ·)

/-! ### Schemes -/

/-- Whether a character may stand in a scheme. -/
def isSchemeChar (c : Char) : Bool :=
  c.isAlphanum || c == '+' || c == '-' || c == '.'

/-- The scheme of a text, and what follows its colon. -/
def scheme? (cs : List Char) : Option (String × List Char) :=
  if !cs.head?.any Char.isAlpha then none
  else
    match cs.dropWhile isSchemeChar with
    | ':' :: rest => some (String.ofList ((cs.takeWhile isSchemeChar).map Char.toLower), rest)
    | _ => none

/-- The usual port of the schemes that need a host. -/
def usualPort? : String → Option Nat
  | "http" => some 80
  | "ws" => some 80
  | "https" => some 443
  | "wss" => some 443
  | "ftp" => some 21
  | _ => none

/-- Whether a scheme is known, so that a backslash is a slash. -/
def isSpecialScheme (scheme : String) : Bool :=
  scheme == "file" || (usualPort? scheme).isSome

/-! ### Query and fragment -/

/-- Whether a character ends a path. -/
def endsPath (c : Char) : Bool :=
  c == '?' || c == '#'

/-- A URL with the query and the fragment that follow its path. -/
def withTail (u : Url) (cs : List Char) : Url :=
  let part? (escapes : Char → Bool) (mark : Char) (cs : List Char) : Option String :=
    if cs.head? == some mark then some (String.ofList (Percent.encode escapes (cs.drop 1))) else none
  { u with
    query := part? (isEncodedInQuery (isSpecialScheme u.scheme)) '?' (cs.takeWhile (· != '#'))
    fragment := part? isEncodedInFragment '#' (cs.dropWhile (· != '#')) }

/-! ### Authorities -/

/-- The credentials before the last `@` of an authority, and what follows it. -/
def splitCredentials (cs : List Char) : Option (List Char) × List Char :=
  match Text.findLast? ['@'] cs with
  | some i => (some (cs.take i), cs.drop (i + 1))
  | none => (none, cs)

/-- The credentials that a text writes; the first colon separates them. -/
def credentials (cs : List Char) : Credentials :=
  let part (cs : List Char) : String := String.ofList (Percent.encode isEncodedInCredentials cs)
  ⟨part (cs.takeWhile (· != ':')), part ((cs.dropWhile (· != ':')).drop 1)⟩

/-- The text of a host, and the rest from a colon on that is not in brackets. -/
def splitHost (inBrackets : Bool) : List Char → List Char × List Char
  | [] => ([], [])
  | c :: rest =>
    if c == ':' && !inBrackets then ([], c :: rest)
    else
      let (name, more) := splitHost (c == '[' || (inBrackets && c != ']')) rest
      (c :: name, more)

/-- The port that stands behind a colon, if it is not the usual one, and the rest from a backslash on. -/
def port? (scheme : String) : List Char → Option (Option Nat × List Char)
  | [] => some (none, [])
  | _ :: cs =>
    let digits := cs.takeWhile isDigit
    let rest := cs.dropWhile isDigit
    match digitsValue? 10 digits with
    | none => none
    | some n =>
      if 65535 < n || !rest.head?.all (· == '\\') then none
      else some (if digits.isEmpty || usualPort? scheme == some n then none else some n, rest)

/-- The authority that a text begins with, and what follows it. -/
def authority? (scheme : String) (cs : List Char) : Option (Authority × List Char) := do
  let isSpecial := isSpecialScheme scheme
  let goesOn (c : Char) : Bool := !isSlash isSpecial c && !endsPath c
  let rest := cs.dropWhile goesOn
  let (before?, place) := splitCredentials (cs.takeWhile goesOn)
  let given := credentials (before?.getD [])
  let (name, portText) := splitHost false place
  let (port, more) ← port? scheme portText
  if !name.isEmpty then
    let host ← if isSpecial then Host.ofText? name else Host.ofPlainText? name
    some (⟨given, some host, port⟩, more ++ rest)
  else if isSpecial || !given.isEmpty || !portText.isEmpty || (before? == some [] && !rest.isEmpty) then none
  else some (⟨{}, none, none⟩, rest)

/-! ### Whole URLs -/

/-- A URL with the path that a text begins with, where a host is known. -/
def ofPlace (scheme : String) (authority : Authority) (cs : List Char) : Url :=
  let isSpecial := isSpecialScheme scheme
  let path := cs.takeWhile (!endsPath ·)
  let text :=
    if path.isEmpty && !isSpecial then ""
    else pathText (trail false (segments isSpecial path)).segments.reverse
  withTail ⟨scheme, some authority, text, none, none⟩ (cs.dropWhile (!endsPath ·))

/-- A URL without an authority. Its path has segments if it begins with a slash. -/
def ofPlain (scheme : String) (cs : List Char) : Url :=
  let path := cs.takeWhile (!endsPath ·)
  let text :=
    if path.head? == some '/' then pathText (trail false (segments false path)).segments.reverse
    else String.ofList (Percent.encode (fun _ ↦ false) path)
  withTail ⟨scheme, none, text, none, none⟩ (cs.dropWhile (!endsPath ·))

/-- The host of a file that stands behind two slashes, and the path after it. A drive is no host. -/
def fileHost? (cs : List Char) : Option (Option Host × List Char) := do
  let goesOn (c : Char) : Bool := !isSlash true c && !endsPath c
  let name := cs.takeWhile goesOn
  if isDrive name then some (none, cs)
  else if name.isEmpty then some (none, cs.dropWhile goesOn)
  else
    let host ← Host.ofText? name
    some (if host = .named "localhost" then none else some host, cs.dropWhile goesOn)

/-- The URL of a file. -/
def file? (cs : List Char) : Option Url := do
  let isAfterSlashes := cs.length ≥ 2 && (cs.take 2).all (isSlash true)
  let (host, rest) ← if isAfterSlashes then fileHost? (cs.drop 2) else some (none, cs)
  let t := trail true (segments true (rest.takeWhile (!endsPath ·)))
  let path := pathText (t.segments.reverse.dropWhile List.isEmpty)
  some (withTail ⟨"file", some { host := if t.onDrive then none else host }, path, none, none⟩
    (rest.dropWhile (!endsPath ·)))

/-- Reads an absolute URL. -/
def parse? (source : String) : Option Url := do
  let (scheme, rest) ← scheme? (clean source.toList)
  if scheme == "file" then file? rest
  else if isSpecialScheme scheme then do
    let (authority, rest) ← authority? scheme (rest.dropWhile (isSlash true))
    some (ofPlace scheme authority rest)
  else if "//".toList.isPrefixOf rest then do
    let (authority, rest) ← authority? scheme (rest.drop 2)
    some (ofPlace scheme authority rest)
  else some (ofPlain scheme rest)

end Url
end WebRecipe
