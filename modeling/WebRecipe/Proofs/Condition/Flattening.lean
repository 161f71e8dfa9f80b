import WebRecipe.Proofs.Condition.Slicing

/-!
# Flattening an array

Flattening replaces each array in an array by its items, as many levels deep as a number says, and
leaves the items of other kinds alone. It takes as many levels away from the nesting of the array,
and keeps the leaves, which are the values at any depth that are no arrays. So flattening twice is
flattening by the sum of both numbers, and as soon as the number reaches the nesting of the array,
only its leaves are left.

A number stands for its integer part. The sum of two numbers is rounded from `2 ^ 53` on, but by
then arrays that are nested less deep than that are flat.

## Main definitions

* `Value.nesting`, `Value.itemNesting`: how deep arrays are nested in a value, and in the items of
  an array.
* `Value.leaves`, `Value.itemLeaves`: the values in a value that are no arrays, from left to right.
* `ArrayMethod.levels`: how many levels a number stands for.
* `ArrayMethod.IsDepth`: a natural number, or infinity.

## Main results

* `ArrayMethod.flatten_flatten`: flattening twice.
* `ArrayMethod.itemNesting_flatten`, `ArrayMethod.itemLeaves_flatten`: what flattening takes away,
  and what it keeps.
* `ArrayMethod.levels_add`: the levels that a sum of two numbers stands for.
* `ArrayMethod.flat_composes`: flattening by calls of the method.
-/

namespace WebRecipe.Condition

/-! ### Nesting and leaves -/

namespace Value

mutual

/-- How many arrays, one in another, a value has at most: none when it is no array. -/
def nesting : Value → Nat
  | array items => itemNesting items + 1
  | _ => 0

/-- How many arrays, one in another, the items of an array have at most. -/
def itemNesting : List Value → Nat
  | [] => 0
  | v :: rest => max (nesting v) (itemNesting rest)

end

mutual

/-- The values in a value that are no arrays, from left to right. -/
def leaves : Value → List Value
  | array items => itemLeaves items
  | v => [v]

/-- The values in the items of an array that are no arrays, from left to right. -/
def itemLeaves : List Value → List Value
  | [] => []
  | v :: rest => leaves v ++ itemLeaves rest

end

theorem itemNesting_singleton (v : Value) : itemNesting [v] = v.nesting := by
  rw [itemNesting, itemNesting, Nat.max_zero]

theorem itemLeaves_singleton (v : Value) : itemLeaves [v] = v.leaves := by
  rw [itemLeaves, itemLeaves, List.append_nil]

theorem itemNesting_append (vs ws : List Value) :
    itemNesting (vs ++ ws) = max (itemNesting vs) (itemNesting ws) := by
  induction vs with
  | nil => rw [List.nil_append, itemNesting, Nat.zero_max]
  | cons v vs ih => rw [List.cons_append, itemNesting, itemNesting, ih, Nat.max_assoc]

theorem itemLeaves_append (vs ws : List Value) :
    itemLeaves (vs ++ ws) = itemLeaves vs ++ itemLeaves ws := by
  induction vs with
  | nil => rfl
  | cons v vs ih => rw [List.cons_append, itemLeaves, itemLeaves, ih, List.append_assoc]

theorem nesting_eq_zero_iff {v : Value} : v.nesting = 0 ↔ ∀ items, v ≠ array items := by
  cases v <;> simp [nesting]

theorem leaves_of_nesting {v : Value} (h : v.nesting = 0) : v.leaves = [v] := by
  cases v with
  | array items => exact absurd rfl (nesting_eq_zero_iff.1 h items)
  | _ => rw [leaves]; simp

/-- The items of an array are nested unless none of them is an array. -/
theorem itemNesting_eq_zero_iff {vs : List Value} :
    itemNesting vs = 0 ↔ ∀ items, array items ∉ vs := by
  induction vs with
  | nil => simp [itemNesting]
  | cons v vs ih =>
    rw [itemNesting, Nat.max_eq_zero_iff, nesting_eq_zero_iff, ih, ← forall_and]
    simp only [List.mem_cons, not_or, ne_comm]

/-- Items none of which is an array are leaves. -/
theorem itemLeaves_of_itemNesting {vs : List Value} (h : itemNesting vs = 0) :
    itemLeaves vs = vs := by
  induction vs with
  | nil => rfl
  | cons v vs ih =>
    rw [itemNesting, Nat.max_eq_zero_iff] at h
    rw [itemLeaves, leaves_of_nesting h.1, ih h.2, List.singleton_append]

end Value

namespace ArrayMethod

open Value

/-! ### Flattening -/

theorem flattenItem_zero (v : Value) : flattenItem v 0 = [v] := by
  cases v <;> rfl

theorem flattenItem_of_nesting {v : Value} (h : v.nesting = 0) (a : Nat) :
    flattenItem v a = [v] := by
  cases v with
  | array items => exact absurd rfl (nesting_eq_zero_iff.1 h items)
  | _ => cases a <;> rfl

theorem flatten_zero (items : List Value) : flatten items 0 = items := by
  induction items with
  | nil => rfl
  | cons v rest ih => rw [flatten, flattenItem_zero, ih, List.singleton_append]

theorem flatten_singleton (v : Value) (a : Nat) : flatten [v] a = flattenItem v a := by
  rw [flatten, flatten, List.append_nil]

theorem flatten_append (vs ws : List Value) (a : Nat) :
    flatten (vs ++ ws) a = flatten vs a ++ flatten ws a := by
  induction vs with
  | nil => rfl
  | cons v vs ih => rw [List.cons_append, flatten, flatten, ih, List.append_assoc]

mutual

theorem flatten_flattenItem :
    ∀ (v : Value) (a b : Nat), flatten (flattenItem v a) b = flattenItem v (a + b)
  | .array items, 0, b => by rw [flattenItem_zero, flatten_singleton, Nat.zero_add]
  | .array items, a + 1, b => by
    rw [flattenItem, flatten_flatten items a b, Nat.succ_add, flattenItem]
  | .undefined, a, b | .null, a, b | .bool _, a, b | .number _, a, b | .text _, a, b
  | .object _, a, b | .math, a, b => by
    rw [flattenItem_of_nesting rfl, flattenItem_of_nesting rfl, flatten_singleton,
      flattenItem_of_nesting rfl]

/-- Flattening twice is flattening by the sum of both numbers. -/
theorem flatten_flatten : ∀ (items : List Value) (a b : Nat),
    flatten (flatten items a) b = flatten items (a + b)
  | [], _, _ => rfl
  | v :: rest, a, b => by
    rw [flatten, flatten_append, flatten_flattenItem v a b, flatten_flatten rest a b, flatten]

end

mutual

theorem itemNesting_flattenItem :
    ∀ (v : Value) (a : Nat), itemNesting (flattenItem v a) = v.nesting - a
  | .array items, 0 => by rw [flattenItem_zero, itemNesting_singleton, Nat.sub_zero]
  | .array items, a + 1 => by
    rw [flattenItem, itemNesting_flatten items a, nesting, Nat.add_sub_add_right]
  | .undefined, a | .null, a | .bool _, a | .number _, a | .text _, a | .object _, a
  | .math, a => by
    rw [flattenItem_of_nesting rfl, itemNesting_singleton]
    exact (Nat.zero_sub a).symm

/-- Flattening takes as many levels away as the number says. -/
theorem itemNesting_flatten : ∀ (items : List Value) (a : Nat),
    itemNesting (flatten items a) = itemNesting items - a
  | [], a => (Nat.zero_sub a).symm
  | v :: rest, a => by
    rw [flatten, itemNesting_append, itemNesting_flattenItem v a, itemNesting_flatten rest a,
      itemNesting, Nat.sub_max_sub_right]

end

mutual

theorem itemLeaves_flattenItem :
    ∀ (v : Value) (a : Nat), itemLeaves (flattenItem v a) = v.leaves
  | .array items, 0 => by rw [flattenItem_zero, itemLeaves_singleton]
  | .array items, a + 1 => by rw [flattenItem, itemLeaves_flatten items a, leaves]
  | .undefined, a | .null, a | .bool _, a | .number _, a | .text _, a | .object _, a
  | .math, a => by
    rw [flattenItem_of_nesting rfl, itemLeaves_singleton]

/-- Flattening keeps the leaves in their order. -/
theorem itemLeaves_flatten : ∀ (items : List Value) (a : Nat),
    itemLeaves (flatten items a) = itemLeaves items
  | [], _ => rfl
  | v :: rest, a => by
    rw [flatten, itemLeaves_append, itemLeaves_flattenItem v a, itemLeaves_flatten rest a,
      itemLeaves]

end

/-- An array has become flat just when the number reaches its nesting. -/
theorem forall_notMem_flatten_iff {items : List Value} {a : Nat} :
    (∀ inner, array inner ∉ flatten items a) ↔ itemNesting items ≤ a := by
  rw [← itemNesting_eq_zero_iff, itemNesting_flatten, Nat.sub_eq_zero_iff_le]

/-- Only the leaves are left once the number reaches the nesting of the array. -/
theorem flatten_eq_itemLeaves {items : List Value} {a : Nat} (h : itemNesting items ≤ a) :
    flatten items a = itemLeaves items := by
  rw [← itemLeaves_flatten items a, itemLeaves_of_itemNesting]
  rwa [itemNesting_flatten, Nat.sub_eq_zero_iff_le]

/-! ### Numbers of levels -/

/-- How many levels a number stands for: its integer part, none when it is negative or not a number,
and never more than `maxCount`. -/
def levels (x : Float) : Nat :=
  (Whole.ofFloat x).clamp maxCount

/-- A natural number, or infinity. -/
def IsDepth (x : Float) : Prop :=
  0 ≤ x ∧ (Double.isWhole x = true ∨ x = infinity)

theorem le_maxCount : 2 ^ 53 ≤ maxCount := by
  decide

theorem levels_of_int {x : Float} {n : Nat} (h : Whole.ofFloat x = .int n) :
    levels x = min n maxCount := by
  rw [levels, h, Whole.clamp, Int.toNat_natCast]

theorem levels_ofNat {n : Nat} (h : n < 2 ^ 53) : levels (.ofNat n) = n := by
  have hmax := le_maxCount
  rw [levels_of_int (Double.ofFloat_ofNat h)]
  omega

theorem levels_infinity : levels infinity = maxCount :=
  rfl

/-- A sum with infinity is infinity. -/
theorem infinity_add {x : Float} (h : 0 ≤ x) :
    infinity + x = infinity ∧ x + infinity = infinity := by
  have hinfinity : Double.unpacked infinity = .infinity .positive := rfl
  rw [Double.add_eq, Double.add_eq, hinfinity]
  rcases Double.unpacked_of_nonneg h with hx | ⟨s, hx⟩ | ⟨m, e, hm, hx⟩ <;> rw [hx] <;>
    exact ⟨rfl, rfl⟩

/-- A sum stands for the levels of both numbers, or all of these numbers are `2 ^ 53` at least. -/
theorem levels_add {x y : Float} (hx : IsDepth x) (hy : IsDepth y) :
    levels (x + y) = levels x + levels y ∨
      2 ^ 53 ≤ levels (x + y) ∧ 2 ^ 53 ≤ levels x + levels y := by
  have hmax := le_maxCount
  obtain ⟨hx, hwx | rfl⟩ := hx
  · obtain ⟨hy, hwy | rfl⟩ := hy
    · obtain ⟨a, ha⟩ := Double.exists_natural hx (Double.isFinite_of_isWhole hwx)
      obtain ⟨b, hb⟩ := Double.exists_natural hy (Double.isFinite_of_isWhole hwy)
      rw [levels_of_int ha, levels_of_int hb]
      by_cases h : a + b < 2 ^ 53
      · left
        rw [levels_of_int (Double.ofFloat_add hwx ha hwy hb h)]
        omega
      · right
        exact ⟨Double.le_clamp_add hx hwx ha hy hwy hb (by omega) hmax, by omega⟩
    · right
      rw [(infinity_add hx).2, levels_infinity]
      omega
  · right
    rw [(infinity_add hy.1).1, levels_infinity]
    omega

/-! ### Calls of the method -/

/-- The method flattens as many levels as its argument stands for. -/
theorem callMethod_flat (items : List Value) (x : Float) :
    callMethod (.array items) "flat" [.number x] = .ok (.array (flatten items (levels x))) := by
  have hlevels : (Arguments.whole [.number x] 0 (.int 1)).clamp maxCount = levels x :=
    Arguments.clampIndex_whole rfl maxCount (.int 1)
  rw [← hlevels]
  rfl

/-- A call after a call flattens by the sum of both numbers. -/
theorem callMethod_flat_flat {items : List Value} {x y : Float} (hx : IsDepth x) (hy : IsDepth y)
    (hnesting : itemNesting items ≤ 2 ^ 53) :
    (do
      let once ← callMethod (.array items) "flat" [.number x]
      callMethod once "flat" [.number y]) =
        callMethod (.array items) "flat" [.number (x + y)] := by
  have htwice : flatten (flatten items (levels x)) (levels y) = flatten items (levels (x + y)) := by
    rw [flatten_flatten]
    rcases levels_add hx hy with h | ⟨hsum, hboth⟩
    · rw [h]
    · rw [flatten_eq_itemLeaves (hnesting.trans hsum), flatten_eq_itemLeaves (hnesting.trans hboth)]
  rw [callMethod_flat items (x + y), ← htwice, ← callMethod_flat (flatten items (levels x)) y,
    callMethod_flat items x]
  rfl

/-- **Flattening composes.** For all numbers of levels, flattening an array twice is flattening it
by their sum, and flattening it by none changes nothing. The result has no array in it just when the
number of levels reaches the nesting of the array, and then it is the leaves of the array, from left
to right. The method flattens by the integer part of its argument. Where the arguments are natural
numbers or infinity, a call after a call is a call with their sum, also where this is rounded,
unless arrays are nested more than `2 ^ 53` deep. -/
theorem flat_composes (items : List Value) :
    (∀ a b, flatten (flatten items a) b = flatten items (a + b)) ∧
    flatten items 0 = items ∧
    (∀ a, (∀ inner, .array inner ∉ flatten items a) ↔ itemNesting items ≤ a) ∧
    (∀ a, itemNesting items ≤ a → flatten items a = itemLeaves items) ∧
    (∀ x, callMethod (.array items) "flat" [.number x] =
      .ok (.array (flatten items (levels x)))) ∧
    (∀ n, n < 2 ^ 53 → levels (.ofNat n) = n) ∧
    callMethod (.array items) "flat" [.number 0] = .ok (.array items) ∧
    ∀ x y, IsDepth x → IsDepth y → itemNesting items ≤ 2 ^ 53 →
      (do
        let once ← callMethod (.array items) "flat" [.number x]
        callMethod once "flat" [.number y]) =
          callMethod (.array items) "flat" [.number (x + y)] := by
  refine ⟨flatten_flatten items, flatten_zero items, fun a ↦ forall_notMem_flatten_iff,
    fun a ↦ flatten_eq_itemLeaves, callMethod_flat items, fun n ↦ levels_ofNat, ?_,
    fun x y hx hy ↦ callMethod_flat_flat hx hy⟩
  have hzero : levels 0 = 0 := levels_ofNat (n := 0) (by decide)
  rw [callMethod_flat, hzero, flatten_zero]

/-- An array in an array in an array, the innermost one empty, between items of other kinds. -/
def nestedItems : List Value :=
  [.array [.null, .array [.bool true, .array []]], .undefined]

/-- One level is taken away, and then all others. -/
theorem flat_composes_all :
    itemNesting nestedItems ≤ 3 ∧
    flatten nestedItems 3 = itemLeaves nestedItems ∧
    itemLeaves nestedItems = [.null, .bool true, .undefined] ∧
    IsDepth 1 ∧ IsDepth infinity ∧ itemNesting nestedItems ≤ 2 ^ 53 ∧
    (do
      let once ← callMethod (.array nestedItems) "flat" [.number 1]
      callMethod once "flat" [.number infinity]) =
        callMethod (.array nestedItems) "flat" [.number (1 + infinity)] := by
  have hnesting : itemNesting nestedItems ≤ 3 := by decide
  have hone : IsDepth 1 := ⟨by decide +kernel, .inl (by decide +kernel)⟩
  have hinfinity : IsDepth infinity := ⟨by decide +kernel, .inr rfl⟩
  have hbound : itemNesting nestedItems ≤ 2 ^ 53 := hnesting.trans (by decide)
  obtain ⟨-, -, -, hleaves, -, -, -, hcalls⟩ := flat_composes nestedItems
  exact ⟨hnesting, hleaves 3 hnesting, rfl, hone, hinfinity, hbound,
    hcalls 1 infinity hone hinfinity hbound⟩

end ArrayMethod
end WebRecipe.Condition
