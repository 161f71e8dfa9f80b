import WebRecipe.Condition.Eval
import WebRecipe.Proofs.Number.Whole

/-!
# Comparing values

Two values compare the same way from both sides. For the order this comes from the parts of doubles
and from the characters of texts. Loose equality converts one side at a time; its rounds are written
down here one rule after another, every round leaves less to convert, and what they come to is
`Value.looseEq`.

## Main definitions

* `Value.looseRound`: one round of loose equality.
* `Value.looseWithin`: the answer of loose equality after some rounds at most.
* `Value.conversions`: how much of a value is left to convert.

## Main results

* `Value.compare_swap`: the order of two values from both sides.
* `Value.looseWithin_eq`: loose equality ends, and its answer is `Value.looseEq`.
* `Value.looseEq_comm`, `Value.strictEq_comm`: both equalities are symmetric.
-/

namespace WebRecipe

/-! ### Doubles from both sides -/

namespace Double

open Float.Model (UnpackedFloat)

private theorem compare_parts_swap (e e' : Int) (m m' : Nat) :
    (compare e e').then (compare m m') = ((compare e' e).then (compare m' m)).swap := by
  rw [Ordering.swap_then, Int.compare_swap, Nat.compare_swap]

/-- From the other side two doubles compare the other way round, if they do. -/
theorem compare_swap (u v : UnpackedFloat) : u.compare v = (v.compare u).map Ordering.swap := by
  cases u with
  | notANumber => cases v <;> rfl
  | infinity s =>
    cases v with
    | notANumber => cases s <;> rfl
    | infinity t => cases s <;> cases t <;> rfl
    | zero t => cases s <;> rfl
    | finite t m e hm => cases s <;> rfl
  | zero s =>
    cases v with
    | notANumber => rfl
    | infinity t => cases t <;> rfl
    | zero t => rfl
    | finite t m e hm => cases t <;> rfl
  | finite s m e hm =>
    cases v with
    | notANumber => cases s <;> rfl
    | infinity t => cases t <;> rfl
    | zero t => cases s <;> rfl
    | finite t m' e' hm' =>
      cases s with
      | negative =>
        cases t with
        | negative => exact congrArg (some ·.swap) (compare_parts_swap e e' m m')
        | positive => rfl
      | positive =>
        cases t with
        | negative => rfl
        | positive => exact congrArg some (compare_parts_swap e e' m m')

theorem gt_iff (x y : Float) : x > y ↔ (unpacked x).compare (unpacked y) = some .gt := by
  rw [gt_iff_lt, lt_iff, compare_swap, Option.map_eq_some_iff]
  constructor
  · rintro ⟨o, ho, hswap⟩
    rw [ho, ← Ordering.swap_swap (o := o), hswap]
    rfl
  · exact fun h ↦ ⟨.gt, h, rfl⟩

theorem beq_comm (x y : Float) : (x == y) = (y == x) := by
  have himp {x y : Float} (h : (x == y) = true) : (y == x) = true := by
    rw [beq_iff] at h ⊢
    rw [compare_swap, h]
    rfl
  exact Bool.eq_iff_iff.2 ⟨himp, himp⟩

end Double

namespace Condition
namespace Value

/-! ### The order of values -/

/-- Doubles are ordered as their parts are. -/
theorem compareNumbers_eq (x y : Float) :
    compareNumbers x y = (Double.unpacked x).compare (Double.unpacked y) := by
  unfold compareNumbers
  split
  case isTrue hlt => exact ((Double.lt_iff x y).1 hlt).symm
  case isFalse hlt =>
    split
    case isTrue heq => exact ((Double.beq_iff x y).1 heq).symm
    case isFalse heq =>
      split
      case isTrue hgt => exact ((Double.gt_iff x y).1 hgt).symm
      case isFalse hgt =>
        rw [Double.lt_iff] at hlt
        rw [Double.beq_iff] at heq
        rw [Double.gt_iff] at hgt
        cases h : (Double.unpacked x).compare (Double.unpacked y) with
        | none => rfl
        | some o =>
          cases o with
          | lt => exact absurd h hlt
          | eq => exact absurd h heq
          | gt => exact absurd h hgt

theorem compareTexts_swap (s t : String) : compareTexts s t = (compareTexts t s).swap := by
  unfold compareTexts
  rcases lt_trichotomy s t with h | rfl | h
  · rw [if_pos h, if_neg (lt_asymm h), if_neg h.ne']
    rfl
  · rw [if_neg (lt_irrefl s), if_pos rfl]
    rfl
  · rw [if_pos h, if_neg (lt_asymm h), if_neg h.ne']
    rfl

/-- From the other side two values compare the other way round, if they do. -/
theorem compare_swap (v w : Value) : v.compare w = (w.compare v).map Ordering.swap := by
  unfold compare
  split
  case h_1 s t hv hw =>
    rw [hv, hw]
    exact congrArg some (compareTexts_swap s t)
  case h_2 hne =>
    split
    case h_1 t s hw hv => exact absurd hw (hne s t hv)
    case h_2 =>
      rw [compareNumbers_eq, compareNumbers_eq]
      exact Double.compare_swap _ _

/-! ### Equality without conversion -/

mutual

theorem strictEq_comm : ∀ v w : Value, v.strictEq w = w.strictEq v
  | undefined, w => by cases w <;> rfl
  | null, w => by cases w <;> rfl
  | math, w => by cases w <;> rfl
  | bool a, w => by
    cases w with
    | bool b => exact Bool.beq_comm
    | _ => rfl
  | number x, w => by
    cases w with
    | number y => exact Double.beq_comm x y
    | _ => rfl
  | text s, w => by
    cases w with
    | text t => exact Bool.beq_comm
    | _ => rfl
  | array xs, w => by
    cases w with
    | array ys => exact strictEqItems_comm xs ys
    | _ => rfl
  | object ps, w => by
    cases w with
    | object qs => exact strictEqProperties_comm ps qs
    | _ => rfl

theorem strictEqItems_comm : ∀ vs ws : List Value, strictEqItems vs ws = strictEqItems ws vs
  | [], ws => by cases ws <;> rfl
  | v :: vs, ws => by
    cases ws with
    | nil => rfl
    | cons w ws => rw [strictEqItems, strictEqItems, strictEq_comm v w, strictEqItems_comm vs ws]

theorem strictEqProperties_comm :
    ∀ ps qs : List (String × Value), strictEqProperties ps qs = strictEqProperties qs ps
  | [], qs => by cases qs <;> rfl
  | (k, v) :: ps, qs => by
    cases qs with
    | nil => rfl
    | cons q qs =>
      obtain ⟨l, w⟩ := q
      rw [strictEqProperties, strictEqProperties, strictEq_comm v w,
        strictEqProperties_comm ps qs, Bool.beq_comm]

end

/-! ### Equality with conversion -/

theorem primitiveEq_comm (v w : Value) : v.primitiveEq w = w.primitiveEq v := by
  unfold primitiveEq
  split
  case h_1 => exact Double.beq_comm _ _
  case h_2 => exact Double.beq_comm _ _
  case h_3 hleft hright =>
    split
    case h_1 => exact absurd rfl (hright _ _ rfl)
    case h_2 => exact absurd rfl (hleft _ _ rfl)
    case h_3 => exact strictEq_comm v w

theorem looseEq_comm (v w : Value) : v.looseEq w = w.looseEq v := by
  unfold looseEq
  rw [Bool.or_comm, Bool.and_comm]
  split
  case isTrue => rfl
  case isFalse =>
    split
    case h_1 => exact Bool.beq_comm
    case h_2 hne =>
      split
      case h_1 => exact absurd rfl (hne _ _ rfl)
      case h_2 =>
        dsimp only
        by_cases hkind : v.boolToNumber.isPrimitive = w.boolToNumber.isPrimitive
        · rw [if_pos hkind, if_pos hkind.symm]
          exact primitiveEq_comm _ _
        · rw [if_neg hkind, if_neg (Ne.symm hkind)]
          exact primitiveEq_comm _ _

theorem looseEq_of_strictEq {v w : Value} (h : v.strictEq w = true) : v.looseEq w = true := by
  cases v <;> cases w <;> first | rfl | exact h | cases h

/-! ### The rounds of loose equality -/

/-- One round of loose equality: its answer, or the two values of the next round. A boolean becomes
a number before the other side is looked at. -/
def looseRound : Value → Value → Bool ⊕ (Value × Value)
  | undefined, undefined | undefined, null | null, undefined | null, null => .inl true
  | undefined, _ | null, _ | _, undefined | _, null => .inl false
  | number x, text s => .inl (x == (text s).toNumber)
  | text s, number y => .inl ((text s).toNumber == y)
  | bool a, w => .inr (number (bool a).toNumber, w)
  | v, bool b => .inr (v, number (bool b).toNumber)
  | v, w =>
    if v.isPrimitive != w.isPrimitive then .inr (v.toPrimitive, w.toPrimitive)
    else .inl (v.strictEq w)

/-- The answer of loose equality after a number of rounds at most. -/
def looseWithin : Nat → Value → Value → Option Bool
  | 0, _, _ => none
  | n + 1, v, w =>
    match looseRound v w with
    | .inl equal => some equal
    | .inr (v', w') => looseWithin n v' w'

/-- How often a value can be converted: booleans become numbers, and values of parts become texts.
-/
def conversions : Value → Nat
  | bool _ | array _ | object _ | math => 1
  | _ => 0

theorem looseEq_of_looseRound {v w : Value} {equal : Bool} (h : looseRound v w = .inl equal) :
    v.looseEq w = equal := by
  cases v <;> cases w <;> cases h <;> rfl

theorem looseEq_of_next {v w v' w' : Value} (h : looseRound v w = .inr (v', w')) :
    v.looseEq w = v'.looseEq w' := by
  cases v with
  | bool a =>
    cases w with
    | bool b =>
      -- of two booleans each becomes a number, in a round of its own
      cases h
      cases a <;> cases b <;> rfl
    | _ => cases h <;> rfl
  | _ => cases w <;> cases h <;> rfl

/-- Every round leaves less to convert. -/
theorem conversions_lt {v w v' w' : Value} (h : looseRound v w = .inr (v', w')) :
    v'.conversions + w'.conversions < v.conversions + w.conversions := by
  cases v <;> cases w <;> cases h <;> exact Nat.lt_succ_self _

theorem conversions_le_one (v : Value) : v.conversions ≤ 1 := by
  cases v <;> first | exact Nat.le_refl 1 | exact Nat.zero_le 1

/-- Loose equality ends after as many rounds as there is to convert, and one more. -/
theorem looseWithin_eq {n : Nat} {v w : Value} (hn : v.conversions + w.conversions < n) :
    looseWithin n v w = some (v.looseEq w) := by
  induction n generalizing v w with
  | zero => exact absurd hn (Nat.not_lt_zero _)
  | succ n ih =>
    rw [looseWithin]
    cases h : looseRound v w with
    | inl equal => rw [looseEq_of_looseRound h]
    | inr next =>
      obtain ⟨v', w'⟩ := next
      have hless := conversions_lt h
      dsimp only
      rw [looseEq_of_next h, ih (by omega)]

end Value

/-! ### The operators -/

/-- A comparison operator holds between two values. -/
def Holds (op : BinaryOp) (v w : Value) : Prop :=
  applyBinary op v w = .ok (.bool true)

theorem ok_bool_inj {a b : Bool} :
    (.ok (.bool a) : Except EvalError Value) = .ok (.bool b) ↔ a = b := by
  rw [Except.ok.injEq, Value.bool.injEq]

theorem holds_lt_iff {v w : Value} : Holds .lt v w ↔ v.compare w = some .lt := by
  refine ok_bool_inj.trans ?_
  cases v.compare w with
  | none => exact iff_of_false Bool.false_ne_true nofun
  | some o => rw [beq_iff_eq, Option.some_inj]

theorem ordered_of_compare {accept : Ordering → Bool} {v w : Value} {o : Ordering}
    (h : v.compare w = some o) : ordered accept v w = .ok (.bool (accept o)) := by
  rw [ordered, h]

/-- An order and its converse are the same from both sides. -/
theorem ordered_swap {accept accept' : Ordering → Bool}
    (h : ∀ o : Ordering, accept o.swap = accept' o) (v w : Value) :
    ordered accept v w = ordered accept' w v := by
  refine ok_bool_inj.2 ?_
  rw [Value.compare_swap]
  cases w.compare v with
  | none => rfl
  | some o => exact h o

/-- **The comparison operators are coherent.** For all values, loose equality ends after three rounds
at most, and `==` gives its answer; `!=` and `!==` give the opposite of `==` and `===`. Both
equalities are symmetric, and the strict one implies the loose one. Less and greater are each
other's converse, with and without equality; no two values are each less than the other; and where
two values are ordered, `<=` gives the opposite of `>`. -/
theorem comparisons_coherent (v w : Value) :
    (∃ equal, Value.looseWithin 3 v w = some equal ∧ applyBinary .eq v w = .ok (.bool equal) ∧
      applyBinary .notEq v w = .ok (.bool !equal)) ∧
    (∃ equal, applyBinary .strictEq v w = .ok (.bool equal) ∧
      applyBinary .strictNotEq v w = .ok (.bool !equal)) ∧
    applyBinary .eq v w = applyBinary .eq w v ∧
    applyBinary .strictEq v w = applyBinary .strictEq w v ∧
    (Holds .strictEq v w → Holds .eq v w) ∧
    applyBinary .lt v w = applyBinary .gt w v ∧
    applyBinary .ltEq v w = applyBinary .gtEq w v ∧
    ¬ (Holds .lt v w ∧ Holds .lt w v) ∧
    ∀ o, v.compare w = some o →
      ∃ greater, applyBinary .gt v w = .ok (.bool greater) ∧
        applyBinary .ltEq v w = .ok (.bool !greater) := by
  have hrounds : v.conversions + w.conversions < 3 := by
    have hv := v.conversions_le_one
    have hw := w.conversions_le_one
    omega
  refine ⟨⟨v.looseEq w, Value.looseWithin_eq hrounds, rfl, rfl⟩, ⟨v.strictEq w, rfl, rfl⟩,
    ok_bool_inj.2 (v.looseEq_comm w), ok_bool_inj.2 (v.strictEq_comm w), fun h ↦ ?_,
    ordered_swap (by decide) v w, ordered_swap (by decide) v w, ?_, fun o ho ↦ ?_⟩
  · exact ok_bool_inj.2 (Value.looseEq_of_strictEq (ok_bool_inj.1 h))
  · rintro ⟨hvw, hwv⟩
    rw [holds_lt_iff] at hvw hwv
    rw [Value.compare_swap, hwv] at hvw
    cases hvw
  · exact ⟨o == .gt, ordered_of_compare ho, ordered_of_compare ho⟩

end Condition
end WebRecipe
