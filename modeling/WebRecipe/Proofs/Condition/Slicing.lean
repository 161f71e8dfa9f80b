import WebRecipe.Condition.Eval
import WebRecipe.Proofs.Number.Natural

/-!
# Slices of texts and arrays

A position is moved into the text or array that it is used for, whatever number it is given as. So
two slices that meet at a position, put together, are what was sliced, and no method reads outside of
a text or array: each one gives the same result when reading a range or a position outside fails.

## Main definitions

* `range?`: a range of a list, if the list has it.
* `readText?`, `readArray?`: methods that fail where they would read outside.

## Main results

* `relativeIndex_le`, `clampIndex_le`: positions lie within what they are used for.
* `slices_meet_inside`: slices that meet are put together again, and reading does not fail.
-/

namespace WebRecipe.Condition

/-! ### Positions -/

theorem clampIndex_le (n : Nat) (w : Whole) : clampIndex n w ≤ n := by
  cases w with
  | nan => exact Nat.zero_le n
  | infinite negative =>
    rw [clampIndex, Whole.clamp]
    split
    · exact Nat.zero_le n
    · exact Nat.le_refl n
  | int i => exact Nat.min_le_right i.toNat n

theorem relativeIndex_le (n : Nat) (w : Whole) : relativeIndex n w ≤ n := by
  cases w with
  | nan => exact Nat.zero_le n
  | infinite negative =>
    rw [relativeIndex]
    split
    · exact Nat.zero_le n
    · exact Nat.le_refl n
  | int i =>
    rw [relativeIndex]
    split
    · omega
    · exact Nat.min_le_right i.toNat n

theorem insideIndex?_lt {n i : Nat} {w : Whole} (h : insideIndex? n w = some i) : i < n := by
  cases w with
  | int z =>
    rw [insideIndex?] at h
    split at h
    case isTrue hz => exact Option.some.inj h ▸ hz.2
    case isFalse => cases h
  | _ => cases h

variable {α : Type} {items : List α} {i n : Nat}

theorem sliceOf_zero (items : List α) (i : Nat) : sliceOf items 0 i = items.take i :=
  rfl

theorem sliceOf_length (items : List α) (i : Nat) :
    sliceOf items i items.length = items.drop i := by
  rw [sliceOf, List.take_length]

/-- A list is put together of its slices up to a position and from there on. -/
theorem sliceOf_append (items : List α) (i : Nat) :
    sliceOf items 0 i ++ sliceOf items i items.length = items := by
  rw [sliceOf_zero, sliceOf_length, List.take_append_drop]

@[simp]
theorem relativeIndex_natCast (h : i ≤ n) : relativeIndex n (.int i) = i := by
  rw [relativeIndex, if_neg (by omega), Int.toNat_natCast, Nat.min_eq_left h]

@[simp]
theorem clampIndex_natCast (h : i ≤ n) : clampIndex n (.int i) = i := by
  rw [clampIndex, Whole.clamp, Int.toNat_natCast, Nat.min_eq_left h]

/-! ### Reading that can fail -/

/-- The items from one position up to another, if the list has such a range. -/
def range? (items : List α) (start stop : Nat) : Option (List α) :=
  if start ≤ stop ∧ stop ≤ items.length then some (sliceOf items start stop) else none

/-- Nothing is read where the range would end before it begins. -/
def between? (items : List α) (start stop : Nat) : Option (List α) :=
  if stop ≤ start then some [] else range? items start stop

/-- The item at a position, if there is one; reading outside of the list fails. -/
def inside? (items : List α) (w : Whole) : Option (Option α) :=
  match insideIndex? items.length w with
  | some i => items[i]?.map some
  | none => some none

theorem range?_eq {start stop : Nat} (h : start ≤ stop) (hstop : stop ≤ items.length) :
    range? items start stop = some (sliceOf items start stop) :=
  if_pos ⟨h, hstop⟩

theorem between?_eq {stop : Nat} (start : Nat) (hstop : stop ≤ items.length) :
    between? items start stop = some (sliceOf items start stop) := by
  rw [between?]
  split
  case isTrue h =>
    rw [sliceOf, List.drop_eq_nil_of_le ((List.length_take_le stop items).trans h)]
  case isFalse h => exact range?_eq (by omega) hstop

theorem inside?_eq (items : List α) (w : Whole) :
    inside? items w = some ((insideIndex? items.length w).bind (items[·]?)) := by
  rw [inside?]
  cases h : insideIndex? items.length w with
  | none => rfl
  | some i =>
    have hi : i < items.length := insideIndex?_lt h
    simp only [Option.bind_some, List.getElem?_eq_getElem hi, Option.map_some]

/-- A method of a text that reads a range or an item of it; reading outside fails. -/
def readText? (s : String) (method : String) (args : Arguments) : Option Value :=
  let text := s.toList
  let n := text.length
  match method with
  | "slice" =>
    let start := relativeIndex n (args.whole 0 (.int 0))
    let stop := relativeIndex n (args.whole 1 (.int n))
    (between? text start stop).map textValue
  | "substring" =>
    let a := clampIndex n (args.whole 0 (.int 0))
    let b := clampIndex n (args.whole 1 (.int n))
    (between? text (min a b) (max a b)).map textValue
  | "substr" =>
    let start := relativeIndex n (args.whole 0 (.int 0))
    let stop := min (start + clampIndex n (args.whole 1 (.int n))) n
    (between? text start stop).map textValue
  | "startsWith" =>
    let start := clampIndex n (args.whole 1 (.int 0))
    (range? text start n).map fun rest ↦ .bool ((args.text 0).isPrefixOf rest)
  | "endsWith" =>
    let stop := clampIndex n (args.whole 1 (.int n))
    (range? text 0 stop).map fun part ↦ .bool ((args.text 0).isSuffixOf part)
  | "charAt" => (inside? text (args.whole 0 (.int 0))).map fun c? ↦ textValue c?.toList
  | "charCodeAt" =>
    (inside? text (args.whole 0 (.int 0))).map fun c? ↦ .number (match c? with
      | some c => Float.ofNat c.toNat
      | none => 0.0 / 0.0)
  | _ => none

/-- A method of an array that reads a range of it; reading outside fails. -/
def readArray? (items : List Value) (method : String) (args : Arguments) : Option Value :=
  let n := items.length
  match method with
  | "includes" =>
    let start := relativeIndex n (args.whole 1 (.int 0))
    (range? items start n).map fun rest ↦ .bool (rest.any (·.sameValueZero (args.value 0)))
  | "indexOf" =>
    let start := relativeIndex n (args.whole 1 (.int 0))
    (range? items start n).map fun rest ↦
      positionNumber ((rest.findIdx? (·.strictEq (args.value 0))).map (start + ·))
  | "slice" =>
    let start := relativeIndex n (args.whole 0 (.int 0))
    let stop := relativeIndex n (args.whole 1 (.int n))
    (between? items start stop).map Value.array
  | _ => none

/-- The methods of a text that read a range or an item of it. -/
def textReadingMethods : List String :=
  ["slice", "substring", "substr", "startsWith", "endsWith", "charAt", "charCodeAt"]

/-- The methods of an array that read a range of it. -/
def arrayReadingMethods : List String :=
  ["includes", "indexOf", "slice"]

/-- The methods of a text do not read outside of it. -/
theorem readText?_eq (s : String) {method : String} (h : method ∈ textReadingMethods)
    (args : Arguments) :
    ∃ v, readText? s method args = some v ∧ callMethod (.text s) method args = .ok v := by
  simp only [textReadingMethods, List.mem_cons, List.not_mem_nil, or_false] at h
  obtain rfl | rfl | rfl | rfl | rfl | rfl | rfl := h <;> simp only [readText?]
  · rw [between?_eq _ (relativeIndex_le _ _)]
    exact ⟨_, rfl, rfl⟩
  · rw [between?_eq _ (max_le (clampIndex_le _ _) (clampIndex_le _ _))]
    exact ⟨_, rfl, rfl⟩
  · rw [between?_eq _ (Nat.min_le_right _ _)]
    exact ⟨_, rfl, rfl⟩
  · rw [range?_eq (clampIndex_le _ _) (Nat.le_refl _), sliceOf_length]
    exact ⟨_, rfl, rfl⟩
  · rw [range?_eq (Nat.zero_le _) (clampIndex_le _ _)]
    exact ⟨_, rfl, rfl⟩
  · rw [inside?_eq]
    exact ⟨_, rfl, rfl⟩
  · rw [inside?_eq]
    exact ⟨_, rfl, rfl⟩

/-- The methods of an array do not read outside of it. -/
theorem readArray?_eq (items : List Value) {method : String} (h : method ∈ arrayReadingMethods)
    (args : Arguments) :
    ∃ v, readArray? items method args = some v ∧ callMethod (.array items) method args = .ok v := by
  simp only [arrayReadingMethods, List.mem_cons, List.not_mem_nil, or_false] at h
  obtain rfl | rfl | rfl := h <;> simp only [readArray?]
  · rw [range?_eq (relativeIndex_le _ _) (Nat.le_refl _), sliceOf_length]
    exact ⟨_, rfl, rfl⟩
  · rw [range?_eq (relativeIndex_le _ _) (Nat.le_refl _), sliceOf_length]
    exact ⟨_, rfl, rfl⟩
  · rw [between?_eq _ (relativeIndex_le _ _)]
    exact ⟨_, rfl, rfl⟩

/-! ### Slices that meet -/

namespace Arguments

theorem whole_of_number {args : Arguments} {j : Nat} {x : Float}
    (h : args[j]? = some (.number x)) (default : Whole) :
    args.whole j default = match Whole.ofFloat x with
      | .nan => .int 0
      | w => w := by
  rw [whole, given?, h]
  rfl

/-- The position that a number gives within `0 … n`. -/
theorem clampIndex_whole {args : Arguments} {j : Nat} {x : Float}
    (h : args[j]? = some (.number x)) (n : Nat) (default : Whole) :
    clampIndex n (args.whole j default) = (Whole.ofFloat x).clamp n := by
  rw [whole_of_number h]
  cases Whole.ofFloat x with
  | nan => exact Nat.zero_min n
  | infinite negative => rfl
  | int i => rfl

theorem whole_missing (v : Value) (default : Whole) : whole [v] 1 default = default :=
  rfl

theorem whole_zero (rest : Arguments) (default : Whole) :
    whole (.number 0 :: rest) 0 default = .int (0 : Nat) := by
  have hzero : Whole.ofFloat 0 = .int (0 : Nat) := Double.ofFloat_ofNat (n := 0) (by decide)
  rw [whole_of_number rfl, hzero]

variable (k : Float)

/-- The position up to which one slice goes is the one from which the other begins. -/
theorem whole_zero_number (default : Whole) :
    whole [.number 0, .number k] 1 default = whole [.number k] 0 (.int 0) := by
  rw [whole_of_number rfl, whole_of_number rfl]

end Arguments

open Arguments

theorem TextMethod.slice_front (text : List Char) (k : Float) :
    slice text [.number 0, .number k] =
      text.take (relativeIndex text.length (whole [.number k] 0 (.int 0))) := by
  simp only [slice, whole_zero, whole_zero_number, relativeIndex_natCast (Nat.zero_le _),
    sliceOf_zero]

theorem TextMethod.slice_back (text : List Char) (k : Float) :
    slice text [.number k] =
      text.drop (relativeIndex text.length (whole [.number k] 0 (.int 0))) := by
  simp only [slice, whole_missing, relativeIndex_natCast (Nat.le_refl _), sliceOf_length]

theorem TextMethod.slice_append (text : List Char) (k : Float) :
    slice text [.number 0, .number k] ++ slice text [.number k] = text := by
  rw [slice_front, slice_back, List.take_append_drop]

theorem TextMethod.substring_append (text : List Char) (k : Float) :
    substring text [.number 0, .number k] ++ substring text [.number k] = text := by
  simp only [substring, whole_zero, whole_zero_number, whole_missing,
    clampIndex_natCast (Nat.zero_le _), clampIndex_natCast (Nat.le_refl _), Nat.zero_min,
    Nat.zero_max, min_eq_left (clampIndex_le _ _), max_eq_right (clampIndex_le _ _),
    sliceOf_append]

theorem ArrayMethod.slice_append (items : List Value) (k : Float) :
    slice items [.number 0, .number k] ++ slice items [.number k] = items := by
  simp only [slice, whole_zero, whole_zero_number, whole_missing,
    relativeIndex_natCast (Nat.zero_le _), relativeIndex_natCast (Nat.le_refl _), sliceOf_append]

@[simp]
theorem textValue_toList (s : String) : textValue s.toList = .text s :=
  congrArg Value.text String.ofList_toList

theorem applyBinary_add_textValue (a b : List Char) :
    applyBinary .add (textValue a) (textValue b) = .ok (textValue (a ++ b)) :=
  congrArg (Except.ok <| Value.text ·) String.ofList_append.symm

theorem callMethod_concat_array (a b : List Value) :
    callMethod (.array a) "concat" [.array b] = .ok (.array (a ++ b)) := by
  have hconcat : ArrayMethod.concat a [.array b] = a ++ b := by
    rw [ArrayMethod.concat, List.flatMap_singleton]
  exact congrArg (Except.ok <| Value.array ·) hconcat

/-- **Slices meet, and nothing is read outside.** For every number, the slice of a text up to the
number and the slice from the number on are the text when they are added, whether negative positions
count from the end or not; those of an array are the array when they are put together. Whatever
arguments a method is called with, the ranges and positions that it reads lie within the text or
array: reading that fails outside gives the result of the method. -/
theorem slices_meet_inside :
    (∀ (s : String) (items : List Value) (k : Float),
      (do
        let front ← callMethod (.text s) "slice" [.number 0, .number k]
        let back ← callMethod (.text s) "slice" [.number k]
        applyBinary .add front back) = .ok (.text s) ∧
      (do
        let front ← callMethod (.text s) "substring" [.number 0, .number k]
        let back ← callMethod (.text s) "substring" [.number k]
        applyBinary .add front back) = .ok (.text s) ∧
      (do
        let front ← callMethod (.array items) "slice" [.number 0, .number k]
        let back ← callMethod (.array items) "slice" [.number k]
        callMethod front "concat" [back]) = .ok (.array items)) ∧
    (∀ (s : String) (args : Arguments), ∀ method ∈ textReadingMethods,
      ∃ v, readText? s method args = some v ∧ callMethod (.text s) method args = .ok v) ∧
    ∀ (items : List Value) (args : Arguments), ∀ method ∈ arrayReadingMethods,
      ∃ v, readArray? items method args = some v ∧
        callMethod (.array items) method args = .ok v := by
  refine ⟨fun s items k ↦ ?_, fun s args method h ↦ readText?_eq s h args,
    fun items args method h ↦ readArray?_eq items h args⟩
  have hadd (a b : List Char) (h : a ++ b = s.toList) :
      applyBinary .add (textValue a) (textValue b) = .ok (.text s) := by
    rw [applyBinary_add_textValue, h, textValue_toList]
  have hconcat (a b : List Value) (h : a ++ b = items) :
      callMethod (.array a) "concat" [.array b] = .ok (.array items) := by
    rw [callMethod_concat_array, h]
  exact ⟨hadd _ _ (TextMethod.slice_append _ k), hadd _ _ (TextMethod.substring_append _ k),
    hconcat _ _ (ArrayMethod.slice_append items k)⟩

/-- Positions that count from the end, that lie far outside, and that are no numbers. -/
theorem slices_meet_inside_far :
    "substr" ∈ textReadingMethods ∧ "indexOf" ∈ arrayReadingMethods ∧
    (∃ v, readText? "añb" "substr" [.number (-2), .number 1e300] = some v ∧
      callMethod (.text "añb") "substr" [.number (-2), .number 1e300] = .ok v) ∧
    ∃ v, readArray? [.null] "indexOf" [.null, .number (0.0 / 0.0)] = some v ∧
      callMethod (.array [.null]) "indexOf" [.null, .number (0.0 / 0.0)] = .ok v := by
  have htext : "substr" ∈ textReadingMethods := by decide
  have harray : "indexOf" ∈ arrayReadingMethods := by decide
  exact ⟨htext, harray, slices_meet_inside.2.1 _ _ _ htext, slices_meet_inside.2.2 _ _ _ harray⟩

end WebRecipe.Condition
