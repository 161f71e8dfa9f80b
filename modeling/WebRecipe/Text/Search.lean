/-!
# Searching in a text

Finding, replacing and splitting by a fixed piece of text. A text is a list of characters; positions
count characters.
-/

namespace WebRecipe.Text

/-- The first position not before `start` at which `needle` begins, where the text given is what
follows position `start`. -/
def findFrom (needle : List Char) : Nat → List Char → Option Nat
  | start, [] => if needle.isEmpty then some start else none
  | start, c :: rest =>
    if needle.isPrefixOf (c :: rest) then some start else findFrom needle (start + 1) rest

/-- The least position of `needle` in `text`. -/
def find? (needle text : List Char) : Option Nat :=
  findFrom needle 0 text

/-- The greatest position of `needle`, where the text given is what follows position `start`. -/
def findLastFrom (needle : List Char) : Nat → List Char → Option Nat
  | start, [] => if needle.isEmpty then some start else none
  | start, c :: rest =>
    match findLastFrom needle (start + 1) rest with
    | some i => some i
    | none => if needle.isPrefixOf (c :: rest) then some start else none

/-- The greatest position of `needle` in `text`. -/
def findLast? (needle text : List Char) : Option Nat :=
  findLastFrom needle 0 text

/-- Whether `needle` occurs in `text`. -/
def contains (needle text : List Char) : Bool :=
  (find? needle text).isSome

/-- The text with the first occurrence of `needle` replaced. -/
def replaceFirst (needle replacement text : List Char) : List Char :=
  match find? needle text with
  | some i => text.take i ++ replacement ++ text.drop (i + needle.length)
  | none => text

/-- The pieces of a text between occurrences of `needle`, where `piece` is the reversed beginning of
the first one and some characters still belong to the last occurrence. -/
def splitGo (needle : List Char) : Nat → List Char → List Char → List (List Char)
  | 0, piece, [] => [piece.reverse]
  | 0, piece, c :: rest =>
    if needle.isPrefixOf (c :: rest) then
      piece.reverse :: splitGo needle (needle.length - 1) [] rest
    else
      splitGo needle 0 (c :: piece) rest
  | _ + 1, piece, [] => [piece.reverse]
  | skip + 1, piece, _ :: rest => splitGo needle skip piece rest

/-- The pieces between the occurrences of a non-empty `needle`, taken from the left. -/
def splitOn (needle text : List Char) : List (List Char) :=
  splitGo needle 0 [] text

/-- The pieces between the characters `c`. -/
def splitChar (c : Char) : List Char → List (List Char)
  | [] => [[]]
  | d :: rest =>
    if d = c then [] :: splitChar c rest
    else
      match splitChar c rest with
      | [] => [[d]]
      | piece :: pieces => (d :: piece) :: pieces

/-- Whether `needle` occurs in the string. -/
def occursIn (needle : String) (s : String) : Bool :=
  contains needle.toList s.toList

/-- The string with every occurrence of a non-empty `needle` replaced. -/
def replaceAll (needle replacement : String) (s : String) : String :=
  replacement.intercalate ((splitOn needle.toList s.toList).map String.ofList)

end WebRecipe.Text
