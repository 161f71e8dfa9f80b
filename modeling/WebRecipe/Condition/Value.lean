import WebRecipe.Condition.Policy
import WebRecipe.Json.Basic
import WebRecipe.Number.Reading
import WebRecipe.Number.Text
import WebRecipe.Text.Blank

/-!
# Values of the condition language

A condition works on values of eight kinds. Objects hold their properties sorted by key. Values have
no identity: arrays and objects are equal when their parts are.

The comparison operators convert as they compare: `looseEq` turns booleans into numbers, and arrays,
objects and the namespace into texts, until both sides can be compared as they are.
-/

namespace WebRecipe.Condition

/-- A value of the condition language. -/
inductive Value where
  | undefined
  | null
  | bool (value : Bool)
  | number (value : Float)
  | text (value : String)
  | array (items : List Value)
  | object (properties : List (String × Value))
  /-- The namespace of mathematical functions. -/
  | math
  deriving Repr, Inhabited

namespace Value

/-! ### Properties -/

/-- Sets a property among properties sorted by key. -/
def setProperty (key : String) (value : Value) :
    List (String × Value) → List (String × Value)
  | [] => [(key, value)]
  | (k, v) :: rest =>
    if key < k then (key, value) :: (k, v) :: rest
    else if k = key then (key, value) :: rest
    else (k, v) :: setProperty key value rest

/-- The properties that a list of settings leaves, sorted by key, later settings winning. -/
def sortedProperties (settings : List (String × Value)) : List (String × Value) :=
  settings.foldl (fun acc p ↦ setProperty p.1 p.2 acc) []

/-! ### JSON -/

mutual

/-- The value of a JSON value. -/
def ofJson : Json → Value
  | .null => null
  | .bool b => bool b
  | .int n => number (Float.ofInt n)
  | .double x => number x
  | .str s => text s
  | .arr xs => array (ofJsonItems xs)
  | .obj ms => object (sortedProperties (ofJsonMembers ms))

/-- The values of the items of a JSON array. -/
def ofJsonItems : List Json → List Value
  | [] => []
  | v :: rest => ofJson v :: ofJsonItems rest

/-- The values of the members of a JSON object. -/
def ofJsonMembers : List (String × Json) → List (String × Value)
  | [] => []
  | (k, v) :: rest => (k, ofJson v) :: ofJsonMembers rest

end

mutual

/-- The JSON value of a value; what JSON cannot hold becomes `null`. -/
def toJson : Value → Json
  | undefined => .null
  | null => .null
  | math => .null
  | bool b => .bool b
  | number x => .ofDouble x
  | text s => .str s
  | array xs => .arr (toJsonItems xs)
  | object ps => .obj (toJsonProperties ps)

/-- The JSON values of the items of an array. -/
def toJsonItems : List Value → List Json
  | [] => []
  | v :: rest => toJson v :: toJsonItems rest

/-- The JSON members of the properties of an object. -/
def toJsonProperties : List (String × Value) → List (String × Json)
  | [] => []
  | (k, v) :: rest => (k, toJson v) :: toJsonProperties rest

end

/-! ### Conversions -/

/-- Neither `undefined` nor `null`. -/
def isNullish : Value → Bool
  | undefined => true
  | null => true
  | _ => false

/-- Whether a value counts as true. -/
def truthy : Value → Bool
  | undefined => false
  | null => false
  | bool b => b
  | number x => x != 0 && !x.isNaN
  | text s => !s.isEmpty
  | array _ => true
  | object _ => true
  | math => true

/-- The word for the kind of a value. -/
def typeName : Value → String
  | undefined => "undefined"
  | bool _ => "boolean"
  | number _ => "number"
  | text _ => "string"
  | null => "object"
  | array _ => "object"
  | object _ => "object"
  | math => "object"

mutual

/-- The text of a value. -/
def toText : Value → String
  | undefined => "undefined"
  | null => "null"
  | bool b => if b then "true" else "false"
  | number x => numberText x
  | text s => s
  | array xs => ",".intercalate (itemTexts xs)
  | object _ => "[object Object]"
  | math => "[object Math]"

/-- The texts of the items of an array; `undefined` and `null` are empty. -/
def itemTexts : List Value → List String
  | [] => []
  | v :: rest => (if v.isNullish then "" else toText v) :: itemTexts rest

end

/-- The result of an operation that has no number as its result. -/
def notANumber : Float := 0.0 / 0.0

/-- The number above all others. -/
def infinity : Float := 1.0 / 0.0

/-- Whether a character may stand in a decimal number. -/
def isNumberChar (c : Char) : Bool :=
  isDigit c || c == '+' || c == '-' || c == '.' || c == 'e' || c == 'E'

/-- The number that a text writes, blanks at the ends aside: nothing is zero, `0x` introduces a
hexadecimal number below `2 ^ 64`, and what is no number is not a number. -/
def textToNumber (s : String) : Float :=
  match Text.trim s.toList with
  | [] => 0
  | cs =>
    match cs with
    | '0' :: 'x' :: rest => hexadecimal rest
    | '0' :: 'X' :: rest => hexadecimal rest
    | _ =>
      if cs = "Infinity".toList ∨ cs = "+Infinity".toList then infinity
      else if cs = "-Infinity".toList then -infinity
      else if cs.all isNumberChar then (readDecimal? cs).getD notANumber
      else notANumber
where
  hexadecimal (digits : List Char) : Float :=
    match readNatural? 16 (Nat.pow 2 64) digits with
    | some n => Float.ofNat n
    | none => notANumber

/-- The number of a value. -/
def toNumber : Value → Float
  | undefined => notANumber
  | null => 0
  | bool b => if b then 1 else 0
  | number x => x
  | text s => textToNumber s
  | array xs => textToNumber (array xs).toText
  | object _ => notANumber
  | math => notANumber

/-! ### Comparisons -/

mutual

/-- Equality without conversion. Numbers compare as numbers: not a number differs from itself, and
the two zeros are equal. -/
def strictEq : Value → Value → Bool
  | undefined, undefined => true
  | null, null => true
  | bool a, bool b => a == b
  | number a, number b => a == b
  | text a, text b => a == b
  | array xs, array ys => strictEqItems xs ys
  | object ps, object qs => strictEqProperties ps qs
  | math, math => true
  | _, _ => false

/-- Equality of the items of two arrays. -/
def strictEqItems : List Value → List Value → Bool
  | [], [] => true
  | v :: vs, w :: ws => strictEq v w && strictEqItems vs ws
  | _, _ => false

/-- Equality of the properties of two objects. -/
def strictEqProperties : List (String × Value) → List (String × Value) → Bool
  | [], [] => true
  | (k, v) :: ps, (l, w) :: qs => k == l && strictEq v w && strictEqProperties ps qs
  | _, _ => false

end

/-- Values that are not made of parts. -/
def isPrimitive : Value → Bool
  | array _ => false
  | object _ => false
  | math => false
  | _ => true

/-- The value itself where it is not made of parts, and otherwise its text. -/
def toPrimitive (v : Value) : Value :=
  if v.isPrimitive then v else text v.toText

/-- Loose equality of values without parts, where a text may stand for a number. -/
def primitiveEq : Value → Value → Bool
  | number a, text s => a == textToNumber s
  | text s, number a => textToNumber s == a
  | v, w => strictEq v w

/-- A boolean as a number, every other value as it is. -/
def boolToNumber : Value → Value
  | bool b => number (if b then 1 else 0)
  | v => v

/-- Equality with conversion. `undefined` and `null` equal each other and nothing else. -/
def looseEq (v w : Value) : Bool :=
  if v.isNullish || w.isNullish then v.isNullish && w.isNullish
  else
    match v, w with
    | bool a, bool b => a == b
    | _, _ =>
      let v := v.boolToNumber
      let w := w.boolToNumber
      if v.isPrimitive = w.isPrimitive then primitiveEq v w
      else primitiveEq v.toPrimitive w.toPrimitive

/-- Equality without conversion in which not a number equals itself. -/
def sameValueZero (v w : Value) : Bool :=
  match v, w with
  | number a, number b => (a.isNaN && b.isNaN) || a == b
  | _, _ => strictEq v w

/-- How two numbers compare; one that is no number does not compare. -/
def compareNumbers (a b : Float) : Option Ordering :=
  if a < b then some .lt
  else if a == b then some .eq
  else if a > b then some .gt
  else none

/-- The order of two texts by their characters. -/
def compareTexts (s t : String) : Ordering :=
  if s < t then .lt else if s = t then .eq else .gt

/-- The order of two values: that of texts for two texts, and otherwise that of numbers; `none` where
a side is not a number. -/
def compare (v w : Value) : Option Ordering :=
  match v.toPrimitive, w.toPrimitive with
  | text s, text t => some (compareTexts s t)
  | a, b => compareNumbers a.toNumber b.toNumber

end Value
end WebRecipe.Condition
