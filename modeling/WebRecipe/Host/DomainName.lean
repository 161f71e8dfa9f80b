import WebRecipe.Host.Punycode
import WebRecipe.Unicode.Direction
import WebRecipe.Unicode.DomainImage

/-!
# Domain names

A domain name consists of labels between points. Names that look alike are the same: letters are brought to
one form before anything else. A label with characters beyond ASCII is written in ASCII behind a marker, and
a label with the marker must be such a form. `toAscii?` finds the form in ASCII, unless the name has
characters that must not stand in it, begins a label with a mark, sets joiners where they have no effect, or
mixes texts of both directions.
-/

namespace WebRecipe.DomainName

open WebRecipe.Unicode

/-! ### Joiners -/

/-- The sign that keeps neighbours from joining. -/
def nonJoiner : Char := Char.ofNat 0x200C

/-- The sign that makes neighbours join. -/
def joiner : Char := Char.ofNat 0x200D

/-- The class of the marks that take the vowel from a letter. -/
def viramaClass : Nat := 9

/-- Whether the next character, apart from those that do not matter for joining, has a property. -/
def reaches (joins : Char → Bool) (cs : List Char) : Bool :=
  match cs.dropWhile isTransparent with
  | c :: _ => joins c
  | [] => false

/-- Whether a character may stand between others, those before it reversed: a joiner must follow a mark
that takes the vowel, and the other sign may also keep two characters apart that would join. -/
def fits (before : List Char) (c : Char) (after : List Char) : Bool :=
  if c != nonJoiner && c != joiner then true
  else
    match before with
    | [] => false
    | p :: _ =>
      combiningClass p == viramaClass ||
        (c == nonJoiner && reaches canJoinNext before && reaches canJoinPrevious after)

/-- Whether all the characters after some may stand there. -/
def allFit (before : List Char) : List Char → Bool
  | [] => true
  | c :: rest => fits before c rest && allFit (c :: before) rest

/-! ### Directions -/

/-- Whether a label has characters of texts from right to left. -/
def runsLeftwards (cs : List Char) : Bool :=
  cs.any fun c ↦ direction c == .right || direction c == .arabicNumber

/-- Whether a label keeps its own direction beside labels of the other one: its first letter says which
one it is, characters of the other one do not occur, and signs do not stand at its end. -/
def keepsDirection : List Char → Bool
  | [] => true
  | first :: rest =>
    let upToMarks := (rest.map direction).reverse.dropWhile (· == .mark)
    let endsAs (ds : List Direction) : Bool := upToMarks.head?.all ds.contains
    match direction first with
    | .left =>
      upToMarks.all [.left, .number, .neutral, .mark].contains && endsAs [.left, .number]
    | .right =>
      !upToMarks.contains .left && endsAs [.right, .number, .arabicNumber] &&
        !(upToMarks.contains .number && upToMarks.contains .arabicNumber)
    | _ => false

/-! ### Labels -/

/-- The marks of every kind, with which no label begins. -/
def neverFirst : List CodeRange :=
  rangesOf Category.marks ++ addedTo Category.marks

/-- A label as it is read, and its form in ASCII. -/
structure Label where
  name : List Char
  ascii : List Char
  deriving Repr, DecidableEq

/-- Whether a character is in ASCII. -/
def isAscii (c : Char) : Bool :=
  c.toNat < 0x80

/-- What the forms in ASCII of other alphabets begin with. -/
def marker : List Char := "xn--".toList

/-- The longest form behind the marker that is read. -/
def longestForm : Nat := 2000

/-- The longest name of a label with characters beyond ASCII. -/
def longestName : Nat := 1000

/-- Whether a name with characters beyond ASCII is short enough and its characters may stand beside each
other. -/
def isWellFormed (name : List Char) : Bool :=
  name.length ≤ longestName && allFit [] name &&
    !name.head?.any fun c ↦ CodeRange.anyContains neverFirst c.toNat

/-- The name behind a marker, which must be one that needs it. -/
def nameOf? (form : List Char) : Option (List Char) := do
  if !form.all isAscii || form.getLast? == some '-' || longestForm < form.length then none
  let name ← Punycode.decode? form
  if name.all isAscii || !name.all isKept || composed name ≠ name || !isWellFormed name then none
  some name

/-- The label that a text in its one form is. -/
def Label.ofText? (cs : List Char) : Option Label :=
  if marker.isPrefixOf cs then (nameOf? (cs.drop marker.length)).map fun name ↦ ⟨name, cs⟩
  else if cs.all isAscii then some ⟨cs, cs⟩
  else if isWellFormed cs then some ⟨cs, marker ++ Punycode.encode cs⟩
  else none

/-! ### Names -/

/-- Whether a character of ASCII must not stand in a domain name. -/
def isForbidden (c : Char) : Bool :=
  c.toNat ≤ 0x20 || c == '\x7f' || "#%/:<>?@[\\]^|".toList.contains c

/-- The labels of a name, if each of them and their directions are well-formed. -/
def labels? (cs : List Char) : Option (List Label) := do
  if cs.any isBarred then none
  let labels ← (Text.splitChar '.' (composed (cs.flatMap domainImage))).mapM Label.ofText?
  let names := labels.map Label.name
  if names.any runsLeftwards && !names.all keepsDirection then none
  some labels

/-- The form of a domain name in ASCII. -/
def toAscii? (cs : List Char) : Option (List Char) := do
  let labels ← labels? cs
  let name := ['.'].intercalate (labels.map Label.ascii)
  if name.any isForbidden then none else some name

end WebRecipe.DomainName
