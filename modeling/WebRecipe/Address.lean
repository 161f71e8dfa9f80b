import WebRecipe.Number.Reading
import WebRecipe.Text.Search

/-!
# Network addresses

An address has four bytes or eight groups of sixteen bits. Bytes are written in decimal between points; in
the wider form, one number may stand for several bytes, and numbers may be octal or hexadecimal. Groups are
written in hexadecimal between colons; one run of zero groups may be left out between two colons, and the
last two groups may be written as four bytes. An address can be written in several ways, but it has one
shortest form.
-/

namespace WebRecipe

/-- A network address. -/
inductive Address where
  | bytes (b₁ b₂ b₃ b₄ : Nat)
  | groups (gs : List Nat)
  deriving Repr, DecidableEq

namespace Address

/-! ### Reading -/

private def byte? (cs : List Char) : Option Nat :=
  if cs.isEmpty || (cs.length > 1 && cs.head? == some '0') then none
  else (digitsValue? 10 cs).filter (· ≤ 255)

/-- Four bytes between points, in decimal and without leading zeros. -/
def quad? (cs : List Char) : Option (Nat × Nat × Nat × Nat) :=
  match (Text.splitChar '.' cs).mapM byte? with
  | some [a, b, c, d] => some (a, b, c, d)
  | _ => none

private def group? (cs : List Char) : Option Nat :=
  if cs.isEmpty || cs.length > 4 then none else digitsValue? 16 cs

/-- Groups between colons, any number of them. -/
private def plainGroups? (cs : List Char) : Option (List Nat) :=
  if cs.isEmpty then some [] else (Text.splitChar ':' cs).mapM group?

/-- Groups between colons, any number of them; four bytes may stand for the last two. -/
private def lastGroups? (cs : List Char) : Option (List Nat) :=
  let parts := Text.splitChar ':' cs
  match parts.getLast? with
  | some last =>
    if last.contains '.' then do
      let front ← parts.dropLast.mapM group?
      let (a, b, c, d) ← quad? last
      return front ++ [a * 256 + b, c * 256 + d]
    else plainGroups? cs
  | none => some []

/-- The eight groups that a text writes. -/
def groups? (cs : List Char) : Option (List Nat) :=
  match Text.splitOn "::".toList cs with
  | [whole] => do
    let gs ← lastGroups? whole
    if gs.length = 8 then some gs else none
  | [front, back] => do
    let a ← plainGroups? front
    let b ← lastGroups? back
    if a.length + b.length ≤ 7 then
      some (a ++ List.replicate (8 - a.length - b.length) 0 ++ b)
    else none
  | _ => none

/-- The address that a text writes. -/
def ofText? (text : String) : Option Address :=
  match quad? text.toList with
  | some (a, b, c, d) => some (.bytes a b c d)
  | none => (groups? text.toList).map .groups

/-- The address of a client that is not known. -/
def unspecified : Address := .bytes 0 0 0 0

/-! ### The wider form -/

/-- A number of an address in the wider form: decimal, octal behind a zero, or hexadecimal behind `0x`,
where nothing need follow. -/
def number? : List Char → Option Nat
  | [] => none
  | '0' :: 'x' :: rest => digitsValue? 16 rest
  | '0' :: 'X' :: rest => digitsValue? 16 rest
  | '0' :: d :: rest => digitsValue? 8 (d :: rest)
  | cs => digitsValue? 10 cs

/-- The address of four bytes that up to four numbers write in the wider form: the last one fills the bytes
that the others leave. -/
def ofNumbers? (parts : List (List Char)) : Option Address := do
  if 4 < parts.length then none
  let ns ← parts.mapM number?
  let last ← ns.getLast?
  if Nat.pow 256 (5 - ns.length) ≤ last || ns.dropLast.any (255 < ·) then none
  let v := ns.dropLast.foldl (fun v n ↦ v * 256 + n) 0 * Nat.pow 256 (5 - ns.length) + last
  some (.bytes (v / Nat.pow 256 3) (v / Nat.pow 256 2 % 256) (v / 256 % 256) (v % 256))

/-! ### Writing -/

private def zeroRun : List Nat → Nat
  | 0 :: rest => zeroRun rest + 1
  | _ => 0

private def longestZeros (gs : List Nat) : Nat × Nat :=
  ((List.range gs.length).map (fun i ↦ (i, zeroRun (gs.drop i)))).foldl
    (fun best run ↦ if run.2 > best.2 then run else best) (0, 0)

/-- Groups in their shortest form: the first of the longest runs of zeros is left out. -/
def groupsText (gs : List Nat) : String :=
  let hex (l : List Nat) : String :=
    ":".intercalate (l.map (fun n ↦ String.ofList (Nat.toDigits 16 n)))
  let (start, size) := longestZeros gs
  if size ≥ 2 then hex (gs.take start) ++ "::" ++ hex (gs.drop (start + size)) else hex gs

/-- An address as text. -/
def text : Address → String
  | bytes a b c d => ".".intercalate ([a, b, c, d].map toString)
  | groups gs => groupsText gs

end Address
end WebRecipe
