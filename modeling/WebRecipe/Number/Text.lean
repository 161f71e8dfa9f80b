import WebRecipe.Number.Binary64

/-!
# Number text

`Shortest.digits` writes a positive double with the fewest decimal digits that still read back as the
same double; among the numbers of that many digits it takes the nearest. The reals that read back as
`m · 2 ^ e` reach half way to the neighbouring doubles on both sides, ends included when `m` is even;
just above a power of two the gap below is half as wide. Everything is computed in natural numbers.

A `Layout` says how a double is written out of its shortest digits: up to which powers of ten it is
written positionally, whether a whole number keeps `.0`, how an exponent is written and which way a
tie between two shortest forms goes. The layouts of this library:

* `Layout.plain`: positional at any size, without `.0`; the text of a number in a condition.
* `Layout.document`: the text of a double inside a JSON document.
* `Layout.detailed`: the text of a coordinate in a page event.

In conditions, in output lines and in files whole numbers below `10 ^ 21` in magnitude are written with
all their digits, and every other number in the plain layout.
-/

namespace WebRecipe

/-- A positive decimal number `digits · 10 ^ exponent`. -/
structure Decimal where
  digits : Nat
  exponent : Int
  deriving Repr, DecidableEq

namespace Shortest

/-- A positive rational number as numerator and denominator. -/
structure Ratio where
  num : Nat
  den : Nat

/-- The number `n · 2 ^ e`. -/
def Ratio.ofBinary (n : Nat) (e : Int) : Ratio :=
  if e < 0 then ⟨n, Nat.pow 2 (-e).toNat⟩ else ⟨n * Nat.pow 2 e.toNat, 1⟩

/-- The number `n · 10 ^ k`. -/
def Ratio.ofDecimal (n : Nat) (k : Int) : Ratio :=
  if k < 0 then ⟨n, Nat.pow 10 (-k).toNat⟩ else ⟨n * Nat.pow 10 k.toNat, 1⟩

/-- Comparison by cross multiplication. -/
def Ratio.lt (a b : Ratio) : Bool :=
  a.num * b.den < b.num * a.den

/-- Comparison by cross multiplication. -/
def Ratio.le (a b : Ratio) : Bool :=
  a.num * b.den ≤ b.num * a.den

/-- The reals that read back as one double, in quarters of its last place. -/
structure Interval where
  low : Ratio
  high : Ratio
  closed : Bool

/-- The reals that read back as `m · 2 ^ e`. -/
def Interval.around (m : Nat) (e : Int) : Interval where
  low := Ratio.ofBinary (if m = Nat.pow 2 52 ∧ e > -1074 then 4 * m - 1 else 4 * m - 2) (e - 2)
  high := Ratio.ofBinary (4 * m + 2) (e - 2)
  closed := m % 2 == 0

/-- Membership in the interval. -/
def Interval.contains (i : Interval) (x : Ratio) : Bool :=
  if i.closed then i.low.le x && x.le i.high else i.low.lt x && x.lt i.high

/-- The power of ten of the first digit: `10 ^ p ≤ m · 2 ^ e < 10 ^ (p + 1)`. -/
def leading (m : Nat) (e : Int) : Int :=
  let value := Ratio.ofBinary m e
  let guess := (((m.log2 : Int) + e) * 30103) / 100000
  if value.lt (Ratio.ofDecimal 1 guess) then guess - 1
  else if (Ratio.ofDecimal 1 (guess + 1)).le value then guess + 1
  else guess

/-- Which of the two neighbours on a decimal grid is taken when both read back: the nearer one, and
on a tie the upper one if `tieUp`, otherwise the even one. -/
def choose (tieUp : Bool) (value : Ratio) (below : Nat) (k : Int) : Nat :=
  let half := Ratio.ofDecimal (2 * below + 1) k
  let twice : Ratio := ⟨2 * value.num, value.den⟩
  if half.lt twice then below + 1
  else if twice.lt half then below
  else if tieUp || below % 2 == 1 then below + 1
  else below

/-- The shortest decimal from a number of digits on; `fuel` bounds the number of digits tried. -/
def search (tieUp : Bool) (m : Nat) (e : Int) (p : Int) : Nat → Nat → Decimal
  | 0, _ => ⟨m, 0⟩
  | fuel + 1, count =>
    let value := Ratio.ofBinary m e
    let interval := Interval.around m e
    let k := p - count + 1
    let unit := Ratio.ofDecimal 1 k
    let below := value.num * unit.den / (value.den * unit.num)
    let lower := interval.contains (Ratio.ofDecimal below k)
    let upper := interval.contains (Ratio.ofDecimal (below + 1) k)
    if lower && upper then ⟨choose tieUp value below k, k⟩
    else if lower then ⟨below, k⟩
    else if upper then ⟨below + 1, k⟩
    else search tieUp m e p fuel (count + 1)

/-- The decimal without zeros at the end of its digits. -/
def strip : Nat → Decimal → Decimal
  | 0, d => d
  | fuel + 1, d =>
    if d.digits ≠ 0 ∧ d.digits % 10 = 0 then strip fuel ⟨d.digits / 10, d.exponent + 1⟩ else d

/-- The fewest digits that read back as `m · 2 ^ e`, without trailing zeros. -/
def digits (tieUp : Bool) (m : Nat) (e : Int) : Decimal :=
  strip 400 (search tieUp m e (leading m e) 18 1)

end Shortest

/-- How a double is written. `positionalFrom` and `positionalTo` bound the power of ten of the first
digit of numbers written positionally; outside, an exponent is written. -/
structure Layout where
  positionalFrom : Option Int
  positionalTo : Option Int
  keepPoint : Bool
  plusInExponent : Bool
  tieUp : Bool

namespace Layout

/-- Positional at any size, whole numbers without a point, a tie goes up. -/
def plain : Layout := ⟨none, none, false, false, true⟩

/-- Positional from `10 ^ -5` to below `10 ^ 16` with at least one digit after the point; otherwise an
exponent with its sign; a tie goes to the even digit. -/
def document : Layout := ⟨some (-5), some 15, true, true, false⟩

/-- Positional from `10 ^ -4` to below `10 ^ 16` with at least one digit after the point; otherwise an
exponent without a plus sign; a tie goes up. -/
def detailed : Layout := ⟨some (-4), some 15, true, false, true⟩

/-- The decimal digits of a number. -/
def digitText (n : Nat) : String :=
  toString n

/-- So many zeros. -/
def zeros (n : Nat) : String :=
  String.ofList (List.replicate n '0')

/-- Digits times a power of ten, written without an exponent. -/
def positional (keepPoint : Bool) (ds : String) (k : Int) : String :=
  if 0 ≤ k then
    ds ++ zeros k.toNat ++ (if keepPoint then ".0" else "")
  else
    let places := (-k).toNat
    if places < ds.length then
      let whole := ds.length - places
      String.ofList (ds.toList.take whole) ++ "." ++ String.ofList (ds.toList.drop whole)
    else
      "0." ++ zeros (places - ds.length) ++ ds

/-- Digits with a point after the first one, and an exponent. -/
def scientific (plus : Bool) (ds : String) (p : Int) : String :=
  let head := String.ofList (ds.toList.take 1)
  let tail := String.ofList (ds.toList.drop 1)
  let mantissa := if tail.isEmpty then head else head ++ "." ++ tail
  let sign := if p < 0 then "-" else if plus then "+" else ""
  mantissa ++ "e" ++ sign ++ toString p.natAbs

/-- The text of a positive decimal number. -/
def decimal (l : Layout) (d : Decimal) : String :=
  let ds := digitText d.digits
  let p := d.exponent + ds.length - 1
  let tooSmall := match l.positionalFrom with | some low => p < low | none => false
  let tooLarge := match l.positionalTo with | some high => p > high | none => false
  if tooSmall || tooLarge then scientific l.plusInExponent ds p
  else positional l.keepPoint ds d.exponent

/-- The text of a double; zero keeps its sign. -/
def write (l : Layout) (x : Float) : String :=
  match Binary64.ofFloat x with
  | .nan => "NaN"
  | .infinite negative => if negative then "-inf" else "inf"
  | .finite negative m e =>
    let body :=
      if m = 0 then (if l.keepPoint then "0.0" else "0")
      else l.decimal (Shortest.digits l.tieUp m e)
    if negative then "-" ++ body else body

end Layout

/-! ### The text of a number -/

/-- The text of a number. -/
def numberText (x : Float) : String :=
  match Binary64.ofFloat x with
  | .nan => "NaN"
  | .infinite negative => if negative then "-Infinity" else "Infinity"
  | .finite negative m e =>
    if m = 0 then "0"
    else
      match Whole.ofBinary64 (.finite negative m e) with
      | .int i =>
        if (Binary64.finite negative m e).isWhole ∧ i.natAbs < Nat.pow 10 21 then toString i
        else Layout.plain.write x
      | _ => Layout.plain.write x

end WebRecipe
