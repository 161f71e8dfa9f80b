import WebRecipe.Number.Binary64

/-!
# Reading numbers

Decimal text to doubles and to integers of bounded size. `readDecimal` rounds once to the nearest
double; `readNatural` accepts an optional plus sign and any number of leading zeros, as the index and
setting readers of this library do.
-/

namespace WebRecipe

/-- The value of a digit in bases up to sixteen. -/
def digitValue? (c : Char) : Option Nat :=
  if '0' ≤ c ∧ c ≤ '9' then some (c.toNat - '0'.toNat)
  else if 'a' ≤ c ∧ c ≤ 'f' then some (c.toNat - 'a'.toNat + 10)
  else if 'A' ≤ c ∧ c ≤ 'F' then some (c.toNat - 'A'.toNat + 10)
  else none

/-- A decimal digit of ASCII. -/
def isDigit (c : Char) : Bool :=
  '0' ≤ c && c ≤ '9'

/-- The number that a list of digits writes in a base; `none` for a foreign character. -/
def digitsValue? (base : Nat) (cs : List Char) : Option Nat :=
  cs.foldl
    (fun acc c ↦ do
      let n ← acc
      let d ← digitValue? c
      if d < base then some (n * base + d) else none)
    (some 0)

/-- A natural number below `bound`, written in a base with an optional plus sign and at least one
digit. -/
def readNatural? (base bound : Nat) (cs : List Char) : Option Nat := do
  let body := match cs with
    | '+' :: rest => rest
    | _ => cs
  if body.isEmpty then none
  else
    let n ← digitsValue? base body
    if n < bound then some n else none

/-- An integer of `-bound … bound - 1`, written in a base with an optional sign. -/
def readInteger? (base bound : Nat) (cs : List Char) : Option Int :=
  match cs with
  | '-' :: rest =>
    if rest.isEmpty then none
    else do
      let n ← digitsValue? base rest
      if n ≤ bound then some (-(n : Int)) else none
  | _ => (readNatural? base bound cs).map Int.ofNat

/-- The double nearest to `m · 10 ^ e`. -/
def nearestDouble (m : Nat) (e : Int) : Float :=
  if m = 0 then 0.0
  else
    let size := (toString m).length
    if (size : Int) + e > 400 then 1.0 / 0.0
    else if (size : Int) + e < -400 then 0.0
    else Float.ofScientific m (e < 0) e.natAbs

/-- The digits of a number before and after its point, how many come after it, and the text behind
them. -/
structure Mantissa where
  digits : List Char
  places : Nat
  rest : List Char

/-- The digits that a text begins with. -/
def mantissa (cs : List Char) : Mantissa :=
  let whole := cs.takeWhile isDigit
  match cs.dropWhile isDigit with
  | '.' :: rest =>
    let fraction := rest.takeWhile isDigit
    ⟨whole ++ fraction, fraction.length, rest.dropWhile isDigit⟩
  | rest => ⟨whole, 0, rest⟩

/-- The exponent that a whole text writes; an empty text writes zero. -/
def exponentPart? : List Char → Option Int
  | [] => some 0
  | c :: rest =>
    if c == 'e' || c == 'E' then
      match rest with
      | '-' :: ds => if ds.isEmpty then none else (digitsValue? 10 ds).map (fun n ↦ -(n : Int))
      | '+' :: ds => if ds.isEmpty then none else (digitsValue? 10 ds).map Int.ofNat
      | ds => if ds.isEmpty then none else (digitsValue? 10 ds).map Int.ofNat
    else none

/-- The number that a whole text writes in decimal digits, without a sign. -/
def unsignedDecimal? (cs : List Char) : Option Float := do
  let m := mantissa cs
  if m.digits.isEmpty then none
  else
    let n ← digitsValue? 10 m.digits
    let e ← exponentPart? m.rest
    some (nearestDouble n (e - m.places))

/-- A double written with digits, at most one point with a digit on some side of it, and an optional
exponent; rounded to nearest. -/
def readDecimal? (cs : List Char) : Option Float :=
  match cs with
  | '-' :: rest => (unsignedDecimal? rest).map (fun x ↦ -x)
  | '+' :: rest => unsignedDecimal? rest
  | _ => unsignedDecimal? cs

end WebRecipe
