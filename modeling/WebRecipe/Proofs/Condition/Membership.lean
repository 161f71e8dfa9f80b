import WebRecipe.Proofs.Condition.Comparison

/-!
# Whether an array includes a value

An array includes a value if one of its items is the same one, where not a number is the same as
itself and the two zeros are the same. Among numbers this is an equivalence. Arrays and objects are
compared by strict equality, part by part, and for strict equality not a number differs from itself.
So the relation is symmetric and transitive on all values, and a value is the same as itself unless
not a number is among its parts.

## Main definitions

* `Double.unsignedZero`: the parts of a double, those of both zeros being the same.
* `Value.numbers`, `Value.innerNumbers`: the numbers in a value, and in its parts.

## Main results

* `Double.beq_iff_unsignedZero`, `Double.same_iff_unsignedZero`: equality of doubles, without and with
  not a number being the same as itself.
* `Value.strictEq_trans`, `Value.strictEq_self_iff`: strict equality is transitive, and holds between
  a value and itself unless not a number is in it.
* `Condition.sameValueZero_equivalence`: what the relation of inclusion is, and when an array of one
  value includes it.
-/

namespace WebRecipe

/-! ### Equality of doubles -/

namespace Double

open Float.Model (UnpackedFloat)

/-- The parts of a double, without the sign of a zero. -/
def unsignedZero : UnpackedFloat → UnpackedFloat
  | .zero _ => .zero .positive
  | u => u

private theorem compare_parts_eq_iff (e e' : Int) (m m' : Nat) :
    (compare e e').then (compare m m') = .eq ↔ m = m' ∧ e = e' := by
  rw [Ordering.then_eq_eq, compare_eq_iff_eq, compare_eq_iff_eq, and_comm]

theorem compare_eq_some_eq_iff (u v : UnpackedFloat) :
    u.compare v = some .eq ↔ u.isNaN = false ∧ unsignedZero u = unsignedZero v := by
  cases u with
  | notANumber => simp [UnpackedFloat.compare, UnpackedFloat.isNaN]
  | infinity s =>
    cases v with
    | infinity t =>
      cases s <;> cases t <;>
        simp [UnpackedFloat.compare, UnpackedFloat.isNaN, unsignedZero] <;> rfl
    | _ => cases s <;> simp [UnpackedFloat.compare, unsignedZero]
  | zero s =>
    cases v with
    | infinity t => cases t <;> simp [UnpackedFloat.compare, unsignedZero]
    | finite t m e hm => cases t <;> simp [UnpackedFloat.compare, unsignedZero]
    | _ => simp [UnpackedFloat.compare, UnpackedFloat.isNaN, unsignedZero]
  | finite s m e hm =>
    cases v with
    | finite t m' e' hm' =>
      have hparts := compare_parts_eq_iff e e' m m'
      cases s <;> cases t <;>
        simp [UnpackedFloat.compare, UnpackedFloat.isNaN, unsignedZero, ← hparts]
    | infinity t => cases s <;> cases t <;> simp [UnpackedFloat.compare, unsignedZero]
    | _ => cases s <;> simp [UnpackedFloat.compare, unsignedZero]

/-- Two doubles are equal if they are numbers and have the same parts, but for the sign of zero. -/
theorem beq_iff_unsignedZero (x y : Float) : (x == y) = true ↔
    x.isNaN = false ∧ unsignedZero (unpacked x) = unsignedZero (unpacked y) := by
  rw [beq_iff, compare_eq_some_eq_iff]
  rfl

/-- Two doubles of which both are not a number, or which are equal, have the same parts, but for the
sign of zero. -/
theorem same_iff_unsignedZero (x y : Float) : (x.isNaN && y.isNaN || x == y) = true ↔
    unsignedZero (unpacked x) = unsignedZero (unpacked y) := by
  have hparts (z : Float) : z.isNaN = true ↔ unsignedZero (unpacked z) = .notANumber := by
    rw [show z.isNaN = (unpacked z).isNaN from rfl]
    cases unpacked z <;> simp [UnpackedFloat.isNaN, unsignedZero]
  rw [Bool.or_eq_true, Bool.and_eq_true, beq_iff_unsignedZero, ← Bool.not_eq_true, hparts, hparts]
  constructor
  · rintro (⟨hx, hy⟩ | ⟨-, hxy⟩)
    · rw [hx, hy]
    · exact hxy
  · intro hxy
    by_cases hx : unsignedZero (unpacked x) = .notANumber
    · exact .inl ⟨hx, hxy ▸ hx⟩
    · exact .inr ⟨hx, hxy⟩

theorem beq_trans {x y z : Float} (hxy : (x == y) = true) (hyz : (y == z) = true) :
    (x == z) = true := by
  rw [beq_iff_unsignedZero] at hxy hyz ⊢
  exact ⟨hxy.1, hxy.2.trans hyz.2⟩

theorem beq_self_iff (x : Float) : (x == x) = true ↔ x.isNaN = false := by
  rw [beq_iff_unsignedZero, and_iff_left rfl]

end Double

namespace Condition
namespace Value

/-! ### Strict equality -/

mutual

theorem strictEq_trans :
    ∀ {u v w : Value}, u.strictEq v = true → v.strictEq w = true → u.strictEq w = true
  | undefined, v, w, huv, hvw => by cases v <;> first | exact hvw | cases huv
  | null, v, w, huv, hvw => by cases v <;> first | exact hvw | cases huv
  | math, v, w, huv, hvw => by cases v <;> first | exact hvw | cases huv
  | bool a, v, w, huv, hvw => by
    cases v with
    | bool b => rwa [eq_of_beq huv]
    | _ => cases huv
  | text s, v, w, huv, hvw => by
    cases v with
    | text t => rwa [eq_of_beq huv]
    | _ => cases huv
  | number x, v, w, huv, hvw => by
    cases v with
    | number y =>
      cases w with
      | number z => exact Double.beq_trans huv hvw
      | _ => cases hvw
    | _ => cases huv
  | array us, v, w, huv, hvw => by
    cases v with
    | array vs =>
      cases w with
      | array ws => exact strictEqItems_trans huv hvw
      | _ => cases hvw
    | _ => cases huv
  | object us, v, w, huv, hvw => by
    cases v with
    | object vs =>
      cases w with
      | object ws => exact strictEqProperties_trans huv hvw
      | _ => cases hvw
    | _ => cases huv

theorem strictEqItems_trans : ∀ {us vs ws : List Value}, strictEqItems us vs = true →
    strictEqItems vs ws = true → strictEqItems us ws = true
  | [], vs, ws, huv, hvw => by
    cases vs with
    | nil => exact hvw
    | cons => cases huv
  | u :: us, vs, ws, huv, hvw => by
    cases vs with
    | nil => cases huv
    | cons v vs =>
      cases ws with
      | nil => cases hvw
      | cons w ws =>
        rw [strictEqItems, Bool.and_eq_true] at huv hvw ⊢
        exact ⟨strictEq_trans huv.1 hvw.1, strictEqItems_trans huv.2 hvw.2⟩

theorem strictEqProperties_trans : ∀ {us vs ws : List (String × Value)},
    strictEqProperties us vs = true → strictEqProperties vs ws = true →
      strictEqProperties us ws = true
  | [], vs, ws, huv, hvw => by
    cases vs with
    | nil => exact hvw
    | cons => cases huv
  | (k, u) :: us, vs, ws, huv, hvw => by
    cases vs with
    | nil => cases huv
    | cons v vs =>
      obtain ⟨l, v⟩ := v
      cases ws with
      | nil => cases hvw
      | cons w ws =>
        obtain ⟨n, w⟩ := w
        rw [strictEqProperties, Bool.and_eq_true, Bool.and_eq_true, beq_iff_eq] at huv hvw ⊢
        exact ⟨⟨huv.1.1.trans hvw.1.1, strictEq_trans huv.1.2 hvw.1.2⟩,
          strictEqProperties_trans huv.2 hvw.2⟩

end

/-! ### The numbers in a value -/

mutual

/-- The numbers in a value, at any depth. -/
def numbers : Value → List Float
  | number x => [x]
  | array items => itemNumbers items
  | object properties => propertyNumbers properties
  | _ => []

/-- The numbers in the items of an array. -/
def itemNumbers : List Value → List Float
  | [] => []
  | v :: rest => numbers v ++ itemNumbers rest

/-- The numbers in the properties of an object. -/
def propertyNumbers : List (String × Value) → List Float
  | [] => []
  | (_, v) :: rest => numbers v ++ propertyNumbers rest

end

/-- The numbers in the parts of a value. -/
def innerNumbers : Value → List Float
  | number _ => []
  | v => v.numbers

mutual

/-- A value equals itself strictly unless not a number is in it. -/
theorem strictEq_self_iff :
    ∀ v : Value, v.strictEq v = true ↔ ∀ x ∈ v.numbers, x.isNaN = false
  | undefined => by simp [strictEq, numbers]
  | null => by simp [strictEq, numbers]
  | math => by simp [strictEq, numbers]
  | bool b => by simp [strictEq, numbers]
  | text s => by simp [strictEq, numbers]
  | number x => by
    rw [strictEq, numbers, List.forall_mem_singleton]
    exact Double.beq_self_iff x
  | array vs => by
    rw [strictEq, numbers]
    exact strictEqItems_self_iff vs
  | object ps => by
    rw [strictEq, numbers]
    exact strictEqProperties_self_iff ps

theorem strictEqItems_self_iff : ∀ vs : List Value,
    strictEqItems vs vs = true ↔ ∀ x ∈ itemNumbers vs, x.isNaN = false
  | [] => by simp [strictEqItems, itemNumbers]
  | v :: vs => by
    rw [strictEqItems, Bool.and_eq_true, strictEq_self_iff v, strictEqItems_self_iff vs,
      itemNumbers, List.forall_mem_append]

theorem strictEqProperties_self_iff : ∀ ps : List (String × Value),
    strictEqProperties ps ps = true ↔ ∀ x ∈ propertyNumbers ps, x.isNaN = false
  | [] => by simp [strictEqProperties, propertyNumbers]
  | (k, v) :: ps => by
    rw [strictEqProperties, beq_self_eq_true, Bool.true_and, Bool.and_eq_true, strictEq_self_iff v,
      strictEqProperties_self_iff ps, propertyNumbers, List.forall_mem_append]

end

/-! ### Being the same -/

/-- Two numbers are the same if they have the same parts, but for the sign of zero, and two values of
other kinds are the same if they are equal strictly. -/
theorem sameValueZero_iff (v w : Value) : v.sameValueZero w = true ↔
    (∃ x y, v = number x ∧ w = number y ∧
      Double.unsignedZero (Double.unpacked x) = Double.unsignedZero (Double.unpacked y)) ∨
    (∀ x, v ≠ number x) ∧ (∀ y, w ≠ number y) ∧ v.strictEq w = true := by
  cases v with
  | number x =>
    cases w with
    | number y => simp [sameValueZero, ← Double.same_iff_unsignedZero]
    | _ => simp [sameValueZero, strictEq]
  | _ => cases w <;> simp [sameValueZero, strictEq]

theorem sameValueZero_comm (v w : Value) : v.sameValueZero w = w.sameValueZero v := by
  have himp {v w : Value} (h : v.sameValueZero w = true) : w.sameValueZero v = true := by
    rw [sameValueZero_iff] at h ⊢
    rcases h with ⟨x, y, hx, hy, hxy⟩ | ⟨hv, hw, hvw⟩
    · exact .inl ⟨y, x, hy, hx, hxy.symm⟩
    · exact .inr ⟨hw, hv, strictEq_comm v w ▸ hvw⟩
  exact Bool.eq_iff_iff.2 ⟨himp, himp⟩

theorem sameValueZero_trans {u v w : Value} (huv : u.sameValueZero v = true)
    (hvw : v.sameValueZero w = true) : u.sameValueZero w = true := by
  rw [sameValueZero_iff] at huv hvw ⊢
  rcases huv with ⟨x, y, rfl, rfl, hxy⟩ | ⟨hu, hv, huv⟩
  · rcases hvw with ⟨y', z, hy, rfl, hyz⟩ | ⟨hv, -, -⟩
    · cases hy
      exact .inl ⟨x, z, rfl, rfl, hxy.trans hyz⟩
    · exact absurd rfl (hv y)
  · rcases hvw with ⟨y, -, rfl, -, -⟩ | ⟨-, hw, hvw⟩
    · exact absurd rfl (hv y)
    · exact .inr ⟨hu, hw, strictEq_trans huv hvw⟩

/-- A value is the same as itself unless not a number is among its parts. -/
theorem sameValueZero_self_iff (v : Value) :
    v.sameValueZero v = true ↔ ∀ x ∈ v.innerNumbers, x.isNaN = false := by
  cases v with
  | number x => exact iff_of_true ((Double.same_iff_unsignedZero x x).2 rfl) nofun
  | _ => exact strictEq_self_iff _

end Value

/-! ### An array of one value -/

/-- The condition `[e].includes(e)`. -/
def includesItself (e : Expr) : Expr :=
  .call (.member (.array [e]) (.name "includes")) [e]

/-- An array of one value includes the value if it is the same as itself. -/
theorem evaluate_includesItself {b : Bindings} {e : Expr} {v : Value} (h : evaluate b e = .ok v) :
    evaluate b (includesItself e) = .ok (.bool (v.sameValueZero v)) := by
  have hall : evaluateAll b [e] = .ok [v] := by
    rw [evaluateAll, h]
    rfl
  have harray : evaluate b (.array [e]) = .ok (.array [v]) := by
    rw [evaluate, hall]
    rfl
  have hcall : callMethod (.array [v]) "includes" [v] = .ok (.bool (v.sameValueZero v)) := by
    have hstart : relativeIndex [v].length (Arguments.whole [v] 1 (.int 0)) = 0 := rfl
    have hany : ArrayMethod.includes [v] [v] = v.sameValueZero v := by
      rw [ArrayMethod.includes, hstart]
      exact Bool.or_false _
    rw [← hany]
    rfl
  rw [includesItself, evaluate, harray, evaluateMemberKey, hall]
  exact hcall

/-- **Being the same is an equivalence, but for parts that are not a number.** For all values, being
the same is symmetric and transitive, and a value is the same as itself if and only if none of its
parts is not a number. An array of one value includes the value if and only if it is the same as
itself. -/
theorem sameValueZero_equivalence (u v w : Value) :
    (v.sameValueZero v = true ↔ ∀ x ∈ v.innerNumbers, x.isNaN = false) ∧
    u.sameValueZero v = v.sameValueZero u ∧
    (u.sameValueZero v = true → v.sameValueZero w = true → u.sameValueZero w = true) ∧
    ∀ (b : Bindings) (e : Expr), evaluate b e = .ok v →
      (evaluate b (includesItself e) = .ok (.bool true) ↔
        ∀ x ∈ v.innerNumbers, x.isNaN = false) := by
  refine ⟨v.sameValueZero_self_iff, u.sameValueZero_comm v, Value.sameValueZero_trans,
    fun b e he ↦ ?_⟩
  rw [evaluate_includesItself he, ok_bool_inj, v.sameValueZero_self_iff]

/-- Not a number is the same as itself, and an array of it includes it. -/
theorem sameValueZero_equivalence_notANumber :
    evaluate [("x", .number Value.notANumber)] (.ident "x") = .ok (.number Value.notANumber) ∧
    evaluate [("x", .number Value.notANumber)] (includesItself (.ident "x")) = .ok (.bool true) := by
  have he : evaluate [("x", .number Value.notANumber)] (.ident "x") =
      .ok (.number Value.notANumber) := rfl
  have hinside := (sameValueZero_equivalence .null (.number Value.notANumber) .null).2.2.2 _ _ he
  exact ⟨he, hinside.2 nofun⟩

/-- An array of not a number is not the same as itself, and is not included in an array of it. -/
theorem array_of_notANumber_differs :
    (Value.array [.number Value.notANumber]).sameValueZero (.array [.number Value.notANumber]) =
      false ∧
    evaluate [] (includesItself (.array [.binary .div (.number 0) (.number 0)])) =
      .ok (.bool false) :=
  ⟨rfl, rfl⟩

end Condition
end WebRecipe
