import WebRecipe.Number.Binary64

/-!
# JSON values

A JSON value as recipes, parameters and stored variables hold it. An object keeps its members in the
order in which they were first written, and a number is either an integer or a double: `1` and `1.0`
are different values.
-/

namespace WebRecipe

/-- A JSON value. Integers are those that fit 64 bits, signed or unsigned. -/
inductive Json where
  | null
  | bool (value : Bool)
  | int (value : Int)
  | double (value : Float)
  | str (value : String)
  | arr (items : List Json)
  | obj (members : List (String × Json))
  deriving Repr, Inhabited

/-- The members of an object, in order. -/
abbrev Members := List (String × Json)

namespace Members

/-- The value of a key. -/
def get? (ms : Members) (key : String) : Option Json :=
  ms.lookup key

/-- Whether a key is present. -/
def has (ms : Members) (key : String) : Bool :=
  ms.any (fun m ↦ m.1 == key)

/-- The members with a key set: a present key keeps its place, a new one comes last. -/
def set (ms : Members) (key : String) (value : Json) : Members :=
  match ms with
  | [] => [(key, value)]
  | (k, v) :: rest => if k = key then (k, value) :: rest else (k, v) :: set rest key value

/-- The members that a list of settings leaves, later settings winning. -/
def ofList (ms : List (String × Json)) : Members :=
  ms.foldl (fun acc m ↦ set acc m.1 m.2) []

end Members

namespace Json

/-- The largest value of a signed 64-bit integer. -/
def maxInt64 : Int := (Nat.pow 2 63 : Nat) - 1

/-- The least value of a signed 64-bit integer. -/
def minInt64 : Int := -(Nat.pow 2 63 : Nat)

/-- The text of a string value. -/
def asStr? : Json → Option String
  | str s => some s
  | _ => none

/-- The truth value of a boolean. -/
def asBool? : Json → Option Bool
  | bool b => some b
  | _ => none

/-- The items of an array. -/
def asArr? : Json → Option (List Json)
  | arr xs => some xs
  | _ => none

/-- The members of an object. -/
def asObj? : Json → Option Members
  | obj ms => some ms
  | _ => none

/-- The integer of an integer value that fits a signed 64-bit word. -/
def asInt64? : Json → Option Int
  | int n => if minInt64 ≤ n ∧ n ≤ maxInt64 then some n else none
  | _ => none

/-- The integer of a value that is a non-negative integer. -/
def asNat? : Json → Option Nat
  | int n => if 0 ≤ n then some n.toNat else none
  | _ => none

/-- The double nearest to a number. -/
def asDouble? : Json → Option Float
  | int n => some (Float.ofInt n)
  | double x => some x
  | _ => none

/-- The value of a key of an object. -/
def get? (v : Json) (key : String) : Option Json :=
  match v with
  | obj ms => Members.get? ms key
  | _ => none

/-- A string value that is present under a key. -/
def getStr? (v : Json) (key : String) : Option String :=
  (v.get? key).bind asStr?

/-! ### Numbers as JSON values

How the result of a calculation becomes a JSON value: a whole number below `2 ^ 53` in magnitude is an
integer, another finite number a double, and what JSON cannot hold is `null`. -/

/-- The JSON value of a calculated number. -/
def ofDouble (x : Float) : Json :=
  match Binary64.ofFloat x with
  | .finite negative m e =>
    match Whole.ofBinary64 (.finite negative m e) with
    | .int i =>
      if (Binary64.finite negative m e).isWhole ∧ i.natAbs < Nat.pow 2 53 then .int i else .double x
    | _ => .double x
  | _ => .null

end Json
end WebRecipe
