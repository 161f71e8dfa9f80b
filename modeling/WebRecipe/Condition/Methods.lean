import WebRecipe.Condition.Value
import WebRecipe.Number.Binary64
import WebRecipe.Pattern.Match
import WebRecipe.Text.Search
import WebRecipe.Unicode.Case

/-!
# Methods

The methods that a condition may call on a text or an array, and the namespace of mathematical functions.

In a text, positions and lengths count characters. A text that a method builds has at most
`maxTextLength` characters. Sorting an array puts `undefined` last and orders the other items by their
texts, equal texts as they were. `round` takes a half upwards; `max` and `min` of nothing are the
infinities, and not a number among their arguments makes them not a number.

A missing argument is `undefined`, a position is the integer part of a number, and positions outside a
text or array are moved to its nearest end.
-/

namespace WebRecipe.Condition

/-! ### Failures of an evaluation

What can go wrong while an accepted condition is evaluated, and, apart from these, the forms that an
evaluation does not support and that the policy keeps away from it. -/

/-- A form that is never evaluated. -/
inductive UnsupportedForm where
  | node
  | unary (op : UnaryOp)
  | nullish
  | instanceOf
  | callee
  deriving Repr, DecidableEq

/-- Why an evaluation fails. -/
inductive EvalError where
  | undefinedVariable (name : String)
  /-- A property or method of `undefined` or `null`, which is given by its text. -/
  | propertyOfNothing (key : String) (value : String)
  /-- A method that a kind of value does not have. -/
  | notFunction (owner method : String)
  | searchOperand (key value : String)
  | badPattern (source : String) (detail : String)
  | badCount (count : String)
  | textTooLong
  | comparator
  | callback (method : String)
  | unsupported (form : UnsupportedForm)
  deriving Repr, DecidableEq

/-- The wording of what cannot be evaluated. -/
def UnsupportedForm.message : UnsupportedForm → String
  | node => "Cannot evaluate node"
  | unary op => "Unknown unary operator: " ++ op.token
  | nullish => "Unknown logical operator: ??"
  | instanceOf => "Unknown binary operator: instanceof"
  | callee => "Callee is not a function"

/-- The wording of a failure. -/
def EvalError.message : EvalError → String
  | undefinedVariable name => "Variable '" ++ name ++ "' is not defined"
  | propertyOfNothing key value => "Cannot access property '" ++ key ++ "' of " ++ value
  | notFunction owner method => owner ++ "." ++ method ++ " is not a function"
  | searchOperand key value =>
    "Cannot use 'in' operator to search for '" ++ key ++ "' in " ++ value
  | badPattern source detail => "Invalid regular expression '" ++ source ++ "': " ++ detail
  | badCount count => "Invalid count value: " ++ count
  | textTooLong => "Invalid string length"
  | comparator => "The comparison function must be a function"
  | callback method =>
    "Array." ++ method ++ " needs a callback, and functions cannot be written in conditions"
  | unsupported form => form.message

/-! ### Arguments -/

/-- The arguments of a call. -/
abbrev Arguments := List Value

/-- The greatest length and count. -/
def maxCount : Nat := Nat.pow 2 64 - 1

namespace Arguments

/-- An argument; a missing one is `undefined`. -/
def value (args : Arguments) (i : Nat) : Value :=
  args.getD i .undefined

/-- An argument that is there and not `undefined`. -/
def given? (args : Arguments) (i : Nat) : Option Value :=
  match args[i]? with
  | some .undefined => none
  | some v => some v
  | none => none

/-- The integer part of an argument, or a default where it is not given; not a number is zero. -/
def whole (args : Arguments) (i : Nat) (default : Whole) : Whole :=
  match args.given? i with
  | none => default
  | some v =>
    match Whole.ofFloat v.toNumber with
    | .nan => .int 0
    | w => w

/-- The text of an argument. -/
def text (args : Arguments) (i : Nat) : List Char :=
  (args.value i).toText.toList

end Arguments

/-- A position within `0 … length`. -/
def clampIndex (length : Nat) (w : Whole) : Nat :=
  w.clamp length

/-- A position within `0 … length`, where a negative one counts from the end. -/
def relativeIndex (length : Nat) : Whole → Nat
  | .nan => 0
  | .infinite negative => if negative then 0 else length
  | .int i => if i < 0 then (length + i).toNat else min i.toNat length

/-- The position of an index that lies inside `0 … length - 1`. -/
def insideIndex? (length : Nat) : Whole → Option Nat
  | .int i => if 0 ≤ i ∧ i.toNat < length then some i.toNat else none
  | _ => none

/-- The items from one position up to another; none where the first is not before the second. -/
def sliceOf {α : Type} (items : List α) (start stop : Nat) : List α :=
  (items.take stop).drop start

/-- The number of a position, or `-1`. -/
def positionNumber : Option Nat → Value
  | some i => .number (Float.ofNat i)
  | none => .number (-1)

/-! ### Texts -/

/-- The greatest length of a text that a method builds. -/
def maxTextLength : Nat := Nat.pow 2 29 - 24

namespace TextMethod

/-- The first position of `needle` at `start` or later. -/
def indexFrom? (text needle : List Char) (start : Nat) : Option Nat :=
  Text.findFrom needle start (text.drop start)

/-- Whether `needle` occurs at `start` or later. -/
def includes (text : List Char) (args : Arguments) : Bool :=
  (indexFrom? text (args.text 0) (clampIndex text.length (args.whole 1 (.int 0)))).isSome

/-- The first position of the first argument at the second one or later. -/
def indexOf? (text : List Char) (args : Arguments) : Option Nat :=
  indexFrom? text (args.text 0) (clampIndex text.length (args.whole 1 (.int 0)))

/-- Whether the first argument occurs at the second one. -/
def startsWith (text : List Char) (args : Arguments) : Bool :=
  (args.text 0).isPrefixOf (text.drop (clampIndex text.length (args.whole 1 (.int 0))))

/-- Whether the first argument ends where the second one says. -/
def endsWith (text : List Char) (args : Arguments) : Bool :=
  (args.text 0).isSuffixOf (text.take (clampIndex text.length (args.whole 1 (.int text.length))))

/-- The characters between two positions, negative ones counted from the end. -/
def slice (text : List Char) (args : Arguments) : List Char :=
  let n := text.length
  sliceOf text (relativeIndex n (args.whole 0 (.int 0))) (relativeIndex n (args.whole 1 (.int n)))

/-- The characters between two positions in either order. -/
def substring (text : List Char) (args : Arguments) : List Char :=
  let n := text.length
  let a := clampIndex n (args.whole 0 (.int 0))
  let b := clampIndex n (args.whole 1 (.int n))
  sliceOf text (min a b) (max a b)

/-- As many characters from a position as the second argument says. -/
def substr (text : List Char) (args : Arguments) : List Char :=
  let n := text.length
  let start := relativeIndex n (args.whole 0 (.int 0))
  sliceOf text start (min (start + clampIndex n (args.whole 1 (.int n))) n)

/-- The character at a position. -/
def charAt? (text : List Char) (args : Arguments) : Option Char :=
  (insideIndex? text.length (args.whole 0 (.int 0))).bind (text[·]?)

/-- The pieces between the occurrences of the first argument, at most as many as the second says. -/
def split (text : List Char) (args : Arguments) : List (List Char) :=
  let limit := match args.given? 1 with
    | none => maxCount
    | some v => (Whole.ofFloat v.toNumber).clamp maxCount
  let pieces := match args.given? 0 with
    | none => [text]
    | some v =>
      match v.toText.toList with
      | [] => text.map (fun c ↦ [c])
      | separator => Text.splitOn separator text
  pieces.take limit

/-- The text with the first occurrence of the first argument replaced by the second. -/
def replace (text : List Char) (args : Arguments) : List Char :=
  Text.replaceFirst (args.text 0) (args.text 1) text

/-- The pattern that the first argument writes. -/
def patternOf (args : Arguments) : Except EvalError Pattern :=
  let source := (args.value 0).toText
  match Pattern.read source with
  | .ok p => .ok p
  | .error e => .error (.badPattern source e.message)

/-- The text of a group, if it took part in the match. -/
def groupValue (text : List Char) : Option (Nat × Nat) → Value
  | some (a, b) => .text (Pattern.slice text a b)
  | none => .undefined

/-- The first match of a pattern and its groups, or `null`. -/
def firstMatch (text : List Char) (args : Arguments) : Except EvalError Value := do
  let p ← patternOf args
  match p.match? text with
  | some m =>
    return .array (.text (Pattern.slice text m.start m.stop) :: m.groups.map (groupValue text))
  | none => return .null

/-- The position of the first match of a pattern, or `-1`. -/
def search (text : List Char) (args : Arguments) : Except EvalError Value := do
  let p ← patternOf args
  return positionNumber ((p.match? text).map (·.start))

/-- So many copies of a text. -/
def copies (text : List Char) (n : Nat) : List Char :=
  if n = 0 ∨ text.isEmpty then []
  else (List.replicate n text).flatten

/-- A number of copies of the text, one after another. -/
def «repeat» (text : List Char) (count : Float) : Except EvalError (List Char) :=
  match Binary64.ofFloat count with
  | .nan => .ok []
  | .infinite _ => .error (.badCount (numberText count))
  | .finite negative m e =>
    if negative && m != 0 then .error (.badCount (numberText count))
    else
      let n := Whole.magnitude m e
      if text.length * n ≤ maxTextLength then .ok (copies text n) else .error .textTooLong

/-- As many characters as asked for, going round in a filler; none when the filler is empty. -/
def cycle (filler : List Char) (n : Nat) : List Char :=
  (copies filler (n / filler.length + 1)).take n

/-- What is put before or after the text to bring it to a length; nothing where it is long enough. -/
def padding (text : List Char) (args : Arguments) : Except EvalError (List Char) :=
  let filler := match args.given? 1 with
    | none => [' ']
    | some v => v.toText.toList
  match args.whole 0 (.int 0) with
  | .nan => .ok []
  | .infinite negative => if negative then .ok [] else .error .textTooLong
  | .int target =>
    if target > maxTextLength then .error .textTooLong
    else .ok (cycle filler (target.toNat - text.length))

end TextMethod

/-- Characters as a value. -/
def textValue (cs : List Char) : Value :=
  .text (String.ofList cs)

open TextMethod in
/-- A method of a text. -/
def callTextMethod (s : String) (method : String) (args : Arguments) : Except EvalError Value :=
  let text := s.toList
  match method with
  | "includes" => .ok (.bool (includes text args))
  | "startsWith" => .ok (.bool (startsWith text args))
  | "endsWith" => .ok (.bool (endsWith text args))
  | "toLowerCase" => .ok (textValue (Unicode.lower text))
  | "toUpperCase" => .ok (textValue (Unicode.upper text))
  | "trim" => .ok (textValue (Text.trim text))
  | "trimStart" => .ok (textValue (Text.trimLeft text))
  | "trimEnd" => .ok (textValue (Text.trimRight text))
  | "slice" => .ok (textValue (slice text args))
  | "substring" => .ok (textValue (substring text args))
  | "substr" => .ok (textValue (substr text args))
  | "indexOf" => .ok (positionNumber (indexOf? text args))
  | "lastIndexOf" => .ok (positionNumber (Text.findLast? (args.text 0) text))
  | "charAt" => .ok (textValue (charAt? text args).toList)
  | "charCodeAt" =>
    .ok (.number (match charAt? text args with
      | some c => Float.ofNat c.toNat
      | none => 0.0 / 0.0))
  | "split" => .ok (.array ((split text args).map textValue))
  | "replace" => .ok (textValue (replace text args))
  | "match" => firstMatch text args
  | "search" => search text args
  | "repeat" => do return textValue (← TextMethod.repeat text (args.value 0).toNumber)
  | "padStart" => do return textValue ((← padding text args) ++ text)
  | "padEnd" => do return textValue (text ++ (← padding text args))
  | _ => .error (.notFunction "string" method)

/-! ### Arrays -/

namespace ArrayMethod

/-- The texts of the items with a separator between them. -/
def join (items : List Value) (args : Arguments) : String :=
  let separator := match args.given? 0 with
    | none => ","
    | some v => v.toText
  separator.intercalate (Value.itemTexts items)

/-- The items followed by the arguments; an argument that is an array is followed by its items. -/
def concat (items : List Value) (args : Arguments) : List Value :=
  items ++ args.flatMap fun
    | .array more => more
    | v => [v]

/-- The order in which items are sorted. -/
def sortsBefore : Value → Value → Bool
  | .undefined, .undefined => true
  | .undefined, _ => false
  | _, .undefined => true
  | v, w => Value.compareTexts v.toText w.toText != .gt

/-- The items in order. -/
def sort (items : List Value) : List Value :=
  items.mergeSort sortsBefore

mutual

/-- An item, or its items where it is an array and the depth allows it. -/
def flattenItem : Value → Nat → List Value
  | .array items, depth + 1 => flatten items depth
  | v, _ => [v]

/-- The items, with nested arrays up to a depth replaced by their items. -/
def flatten : List Value → Nat → List Value
  | [], _ => []
  | v :: rest, depth => flattenItem v depth ++ flatten rest depth

end

/-- Whether an item equals the first argument, from the position of the second on. -/
def includes (items : List Value) (args : Arguments) : Bool :=
  (items.drop (relativeIndex items.length (args.whole 1 (.int 0)))).any
    (fun v ↦ v.sameValueZero (args.value 0))

/-- The first position, from a position on, of an item that equals a value. -/
def indexFrom? (items : List Value) (v : Value) (start : Nat) : Option Nat :=
  ((items.drop start).findIdx? (fun w ↦ w.strictEq v)).map (start + ·)

/-- The first position of the first argument at the second one or later. -/
def indexOf? (items : List Value) (args : Arguments) : Option Nat :=
  indexFrom? items (args.value 0) (relativeIndex items.length (args.whole 1 (.int 0)))

/-- The last position of an item that equals a value. -/
def lastIndexOf? (items : List Value) (v : Value) : Option Nat :=
  (items.reverse.findIdx? (fun w ↦ w.strictEq v)).map (items.length - 1 - ·)

/-- The items between two positions, negative ones counted from the end. -/
def slice (items : List Value) (args : Arguments) : List Value :=
  let n := items.length
  sliceOf items (relativeIndex n (args.whole 0 (.int 0))) (relativeIndex n (args.whole 1 (.int n)))

/-- The methods that would need a function. -/
def callbackMethods : List String :=
  ["filter", "map", "reduce", "some", "every", "find", "findIndex", "flatMap"]

end ArrayMethod

open ArrayMethod in
/-- A method of an array. -/
def callArrayMethod (items : List Value) (method : String) (args : Arguments) :
    Except EvalError Value :=
  match method with
  | "join" => .ok (.text (join items args))
  | "concat" => .ok (.array (concat items args))
  | "reverse" => .ok (.array items.reverse)
  | "sort" => if (args.given? 0).isSome then .error .comparator else .ok (.array (sort items))
  | "flat" => .ok (.array (flatten items ((args.whole 0 (.int 1)).clamp maxCount)))
  | "includes" => .ok (.bool (includes items args))
  | "indexOf" => .ok (positionNumber (indexOf? items args))
  | "lastIndexOf" => .ok (positionNumber (lastIndexOf? items (args.value 0)))
  | "slice" => .ok (.array (slice items args))
  | _ =>
    if callbackMethods.contains method then .error (.callback method)
    else .error (.notFunction "array" method)

/-! ### Mathematical functions -/

/-- A constant of the namespace. -/
def mathConstant? : String → Option Float
  | "PI" => some 3.14159265358979323846264338327950288
  | "E" => some 2.71828182845904523536028747135266250
  | "LN2" => some 0.693147180559945309417232121458176568
  | "LN10" => some 2.30258509299404568401799145468436421
  | "LOG2E" => some 1.44269504088896340735992468100189214
  | "LOG10E" => some 0.434294481903251827651128918916605082
  | "SQRT2" => some 1.41421356237309504880168872420969808
  | "SQRT1_2" => some 0.707106781186547524400844362104849039
  | _ => none

/-- The greater of two numbers. -/
def greater (a b : Float) : Float :=
  if a.isNaN || b.isNaN then 0.0 / 0.0 else if a < b then b else a

/-- The lesser of two numbers. -/
def lesser (a b : Float) : Float :=
  if a.isNaN || b.isNaN then 0.0 / 0.0 else if b < a then b else a

/-- The sign of a number. -/
def sign (x : Float) : Float :=
  if x.isNaN || x == 0 then x else if x < 0 then -1 else 1

/-- The root of a sum of squares. -/
def hypotenuse (xs : List Float) : Float :=
  (xs.foldl (fun sum x ↦ sum + x * x) 0).sqrt

/-- The result of a function of the namespace. -/
def mathResult? (name : String) (args : Arguments) : Option Float :=
  let x := (args.value 0).toNumber
  let y := (args.value 1).toNumber
  match name with
  | "abs" => some x.abs
  | "ceil" => some x.ceil
  | "floor" => some x.floor
  | "round" => some (x + 0.5).floor
  | "trunc" => some (Double.truncate x)
  | "sign" => some (sign x)
  | "sqrt" => some x.sqrt
  | "cbrt" => some (Double.nearestCubeRoot x)
  | "exp" => some x.exp
  | "log" => some x.log
  | "log2" => some x.log2
  | "log10" => some x.log10
  | "sin" => some x.sin
  | "cos" => some x.cos
  | "tan" => some x.tan
  | "asin" => some x.asin
  | "acos" => some x.acos
  | "atan" => some x.atan
  | "atan2" => some (x.atan2 y)
  | "pow" => some (x.pow y)
  | "hypot" => some (hypotenuse (args.map Value.toNumber))
  | "max" => some ((args.map Value.toNumber).foldl greater (-(1.0 / 0.0)))
  | "min" => some ((args.map Value.toNumber).foldl lesser (1.0 / 0.0))
  | _ => none

/-- A function of the namespace. -/
def callMath (name : String) (args : Arguments) : Except EvalError Value :=
  match mathResult? name args with
  | some x => .ok (.number x)
  | none => .error (.notFunction "Math" name)

end WebRecipe.Condition
