/-!
# Doubles taken apart

A double is not a number, an infinity, or an exact value `m · 2 ^ e` with a sign. The functions here
answer exact questions about it (its integer part, whether it has a fraction, its remainder by
another double) in integer arithmetic on `m` and `e`, so that they hold for every double and round
nowhere.

* `Binary64.ofFloat` takes a double apart.
* `Whole.ofFloat` is what is left of a double when the digits after its point are dropped.
* `Double.remainder` is the exact remainder with the sign of the dividend.
-/

namespace WebRecipe

/-- A double taken apart: the finite ones are `mantissa · 2 ^ exponent` with a sign. -/
inductive Binary64 where
  | nan
  | infinite (negative : Bool)
  | finite (negative : Bool) (mantissa : Nat) (exponent : Int)
  deriving Repr, DecidableEq

namespace Binary64

/-- The parts of a double, read off its sign bit, eleven exponent bits and fraction bits. -/
def ofBits (bits : Nat) : Binary64 :=
  let negative : Bool := bits / Nat.pow 2 63 % 2 == 1
  let biased : Nat := bits / Nat.pow 2 52 % Nat.pow 2 11
  let fraction : Nat := bits % Nat.pow 2 52
  if biased = 2047 then
    if fraction = 0 then .infinite negative else .nan
  else if biased = 0 then
    .finite negative fraction (-1074)
  else
    .finite negative (fraction + Nat.pow 2 52) ((biased : Int) - 1075)

/-- The parts of a double. -/
def ofFloat (x : Float) : Binary64 :=
  ofBits x.toBits.toNat

end Binary64

/-- What is left of a double when the digits after its point are dropped. -/
inductive Whole where
  | nan
  | infinite (negative : Bool)
  | int (value : Int)
  deriving Repr, DecidableEq

namespace Whole

/-- A number with a sign. -/
def signed (negative : Bool) (n : Nat) : Int :=
  if negative then -(n : Int) else n

/-- The magnitude of `m · 2 ^ e` without the digits after its point. -/
def magnitude (m : Nat) : Int → Nat
  | .ofNat e => m * Nat.pow 2 e
  | .negSucc e => m / Nat.pow 2 (e + 1)

/-- The integer part of a double taken apart. -/
def ofBinary64 : Binary64 → Whole
  | .nan => .nan
  | .infinite negative => .infinite negative
  | .finite negative m e => .int (signed negative (magnitude m e))

/-- The integer part of a double. -/
def ofFloat (x : Float) : Whole :=
  ofBinary64 (Binary64.ofFloat x)

/-- The natural number nearest to the integer part within `0 … limit`; not a number counts as zero. -/
def clamp (limit : Nat) : Whole → Nat
  | .nan => 0
  | .infinite negative => if negative then 0 else limit
  | .int i => min i.toNat limit

end Whole

/-- A double is a whole number when it is finite and has no digits after its point. -/
def Binary64.isWhole : Binary64 → Bool
  | .nan => false
  | .infinite _ => false
  | .finite _ _ (.ofNat _) => true
  | .finite _ m (.negSucc e) => m % Nat.pow 2 (e + 1) == 0

/-- A double that is finite and has no digits after its point. -/
def Double.isWhole (x : Float) : Bool :=
  (Binary64.ofFloat x).isWhole

/-- The double `± m · 2 ^ e`, for an `m` of at most 53 significant bits. -/
def Double.ofParts (negative : Bool) (m : Nat) (e : Int) : Float :=
  let spare := m.log2 + 1 - 53
  let x := (Float.ofNat (m / Nat.pow 2 spare)).scaleB (e + spare)
  if negative then -x else x

/-- The double without the digits after its point. -/
def Double.truncate (x : Float) : Float :=
  if x < 0 then x.ceil else x.floor

/-- The remainder of two numbers that are given as whole numbers times powers of two. -/
def remainderOfParts (negative : Bool) (m : Nat) (e : Int) (m' : Nat) (e' : Int) : Float :=
  let low := min e e'
  let rest := (m * Nat.pow 2 (e - low).toNat) % (m' * Nat.pow 2 (e' - low).toNat)
  Double.ofParts negative rest low

/-- The exact remainder of a division whose quotient is rounded toward zero; it has the sign of the
dividend. -/
def Double.remainder (x y : Float) : Float :=
  match Binary64.ofFloat x, Binary64.ofFloat y with
  | .finite negative m e, .finite _ m' e' =>
    if m' = 0 then 0.0 / 0.0 else remainderOfParts negative m e m' e'
  | .finite _ _ _, .infinite _ => x
  | _, _ => 0.0 / 0.0

/-! ### Cube roots

The double nearest to the cube root of a double, found from the integer cube root of its exact value. -/

/-- The largest number `root + k` with `k < 2 ^ bits` whose cube is at most `n`, when the cube of `root`
is. -/
def cubeRootFrom (n root : Nat) : (bits : Nat) → Nat
  | 0 => root
  | bits + 1 =>
    let candidate := root + Nat.pow 2 bits
    if Nat.pow candidate 3 ≤ n then cubeRootFrom n candidate bits else cubeRootFrom n root bits

/-- The largest number whose cube is at most `n`. -/
def cubeRoot (n : Nat) : Nat :=
  cubeRootFrom n 0 (n.log2 / 3 + 1)

/-- A whole number rounded to so many bits fewer, where `exact` says that nothing follows it. A half
goes to the even neighbour. -/
def dropBits (n bits : Nat) (exact : Bool) : Nat :=
  let kept := n / Nat.pow 2 bits
  let rest := n % Nat.pow 2 bits
  let half := Nat.pow 2 bits / 2
  if half < rest ∨ (rest = half ∧ (!exact ∨ kept % 2 = 1)) then kept + 1 else kept

namespace Double

/-- The double nearest to the cube root of `± m · 2 ^ e`, for an `m` other than zero. -/
def cubeRootOfParts (negative : Bool) (m : Nat) (e : Int) : Float :=
  let shift := 168 - m.log2 + ((e - (168 - m.log2 : Nat)) % 3).toNat
  let n := m * Nat.pow 2 shift
  let root := cubeRoot n
  let spare := root.log2 + 1 - 53
  ofParts negative (dropBits root spare (Nat.pow root 3 == n)) ((e - shift) / 3 + spare)

/-- The double nearest to the cube root of a double. -/
def nearestCubeRoot (x : Float) : Float :=
  match Binary64.ofFloat x with
  | .finite negative m e => if m = 0 then x else cubeRootOfParts negative m e
  | _ => x

end Double
end WebRecipe
