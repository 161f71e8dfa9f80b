import WebRecipe.Number.Reading
import WebRecipe.Text.Search

/-!
# Sets of characters as ranges

A set of characters is a list of ranges of code points. `normalize` sorts the ranges and joins those
that touch; the set operations give sorted ranges.
-/

namespace WebRecipe.Unicode

open WebRecipe.Text (splitChar)

/-- A range of code points, ends included. -/
structure CodeRange where
  first : Nat
  last : Nat
  deriving Repr, DecidableEq

namespace CodeRange

/-- Whether a code point lies in the range. -/
def contains (r : CodeRange) (n : Nat) : Bool :=
  r.first ≤ n && n ≤ r.last

/-- The range of one character. -/
def single (c : Char) : CodeRange :=
  ⟨c.toNat, c.toNat⟩

/-- The number written in hexadecimal. -/
def hex (cs : List Char) : Nat :=
  (digitsValue? 16 cs).getD 0

/-- The range written `first-last`, or `first` alone for one code point, in hexadecimal. -/
def ofText (cs : List Char) : CodeRange :=
  match splitChar '-' cs with
  | [a, b] => ⟨hex a, hex b⟩
  | _ => ⟨hex cs, hex cs⟩

/-- The ranges of a table, separated by spaces. -/
def table (text : String) : List CodeRange :=
  (splitChar ' ' text.toList).map ofText

/-- Whether a code point lies in one of the ranges. -/
def anyContains (rs : List CodeRange) (n : Nat) : Bool :=
  rs.any (·.contains n)

private def joinFrom (r : CodeRange) : List CodeRange → List CodeRange
  | [] => [r]
  | s :: rest =>
    if s.first ≤ r.last + 1 then joinFrom ⟨r.first, max r.last s.last⟩ rest
    else r :: joinFrom s rest

private def startsBefore (r s : CodeRange) : Bool :=
  r.first ≤ s.first

/-- The same set in sorted ranges. -/
def normalize (rs : List CodeRange) : List CodeRange :=
  match rs.mergeSort startsBefore with
  | [] => []
  | r :: rest => joinFrom r rest

/-- The greatest code point. -/
def lastCode : Nat := 0x10FFFF

/-- The code point after another one, where surrogates do not count. -/
def after (n : Nat) : Nat :=
  if n = 0xD7FF then 0xE000 else n + 1

/-- The code point before another one, where surrogates do not count. -/
def before (n : Nat) : Nat :=
  if n = 0xE000 then 0xD7FF else n - 1

/-- The range between two code points, in whichever order they come. -/
def between (m n : Nat) : CodeRange :=
  if m ≤ n then ⟨m, n⟩ else ⟨n, m⟩

private def gaps : Nat → List CodeRange → List CodeRange
  | last, [] => if last < lastCode then [⟨after last, lastCode⟩] else []
  | last, r :: rest => between (after last) (before r.first) :: gaps r.last rest

/-- What lies before, between and after sorted ranges. Where one range ends right before the surrogates
and the next one starts right after them, both of these ends belong to the complement. -/
def complementSorted : List CodeRange → List CodeRange
  | [] => [⟨0, lastCode⟩]
  | r :: rest => if 0 < r.first then ⟨0, before r.first⟩ :: gaps r.last rest else gaps r.last rest

/-- The characters outside the ranges. -/
def complement (rs : List CodeRange) : List CodeRange :=
  complementSorted (normalize rs)

private def common? (r s : CodeRange) : Option CodeRange :=
  if max r.first s.first ≤ min r.last s.last then some ⟨max r.first s.first, min r.last s.last⟩
  else none

/-- The characters in both sets. -/
def intersection (rs ss : List CodeRange) : List CodeRange :=
  normalize (rs.flatMap fun r ↦ ss.filterMap (common? r))

private def without (s r : CodeRange) : List CodeRange :=
  if (common? r s).isNone then [r]
  else
    (if r.first < s.first then [⟨r.first, before s.first⟩] else []) ++
      (if s.last < r.last then [⟨after s.last, r.last⟩] else [])

/-- The characters in the first set only. -/
def difference (rs ss : List CodeRange) : List CodeRange :=
  ss.foldl (fun rest s ↦ rest.flatMap (without s)) (normalize rs)

/-- The characters in exactly one of the sets. -/
def symmetricDifference (rs ss : List CodeRange) : List CodeRange :=
  difference (normalize (rs ++ ss)) (intersection rs ss)

end CodeRange

/-! ### Ranges of characters as ranges of bytes

The UTF-8 forms of the characters of a range, as sequences of byte ranges: a form belongs to the range
if each of its bytes lies in the byte range at its place. A range of characters whose forms differ in
length or do not agree in this way is first cut into pieces, of which there are as few as possible. -/

/-- A range of bytes, ends included. -/
structure ByteRange where
  first : Nat
  last : Nat
  deriving Repr, DecidableEq

/-- The bytes of the UTF-8 form of a character. -/
def utf8Bytes (n : Nat) : List Nat :=
  if n < 0x80 then [n]
  else if n < 0x800 then [0xC0 + n / 64, 0x80 + n % 64]
  else if n < 0x10000 then [0xE0 + n / 4096, 0x80 + n / 64 % 64, 0x80 + n % 64]
  else [0xF0 + n / 262144, 0x80 + n / 4096 % 64, 0x80 + n / 64 % 64, 0x80 + n % 64]

namespace CodeRange

/-- The ranges of the characters whose UTF-8 forms have more than one byte and are equally long. -/
def longForms : List CodeRange :=
  [⟨0x80, 0x7FF⟩, ⟨0x800, 0xD7FF⟩, ⟨0xE000, 0xFFFF⟩, ⟨0x10000, lastCode⟩]

/-- The part of a range in another one. -/
def within (r s : CodeRange) : List CodeRange :=
  if max r.first s.first ≤ min r.last s.last then [⟨max r.first s.first, min r.last s.last⟩] else []

/-- The pieces of a range that either lie in one block or consist of whole ones, for each of some sizes of
blocks, the least one first. -/
def blockPieces : List Nat → CodeRange → List CodeRange
  | [], r => [r]
  | b :: bs, r =>
    if r.first / b = r.last / b then [r]
    else
      let start := (r.first + b - 1) / b * b
      let stop := (r.last + 1) / b * b
      (if r.first < start then [⟨r.first, start - 1⟩] else []) ++
        (if start < stop then blockPieces bs ⟨start, stop - 1⟩ else []) ++
        (if stop ≤ r.last then [⟨stop, r.last⟩] else [])

/-- The byte ranges between the UTF-8 forms of the ends of a range. -/
def formRanges (r : CodeRange) : List ByteRange :=
  List.zipWith ByteRange.mk (utf8Bytes r.first) (utf8Bytes r.last)

/-- The sequences of byte ranges of the characters in a range. -/
def byteSequences (r : CodeRange) : List (List ByteRange) :=
  ((r.within ⟨0, 0x7F⟩) ++
    (longForms.flatMap r.within).flatMap (blockPieces [64, 4096, 262144])).map formRanges

end CodeRange
end WebRecipe.Unicode
