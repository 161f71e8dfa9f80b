import WebRecipe.Condition.Eval
import WebRecipe.Proofs.Condition.Sandbox

/-!
# Evaluation covers what the policy accepts

The evaluator has outcomes for forms that it does not evaluate, and it passes over entries of an
object literal that are no properties. Neither happens in a tree that the policy accepts: whatever
the bindings, every failure in it, at any depth, is one that the language itself defines
(`evaluate_of_accepted`).

## Main definitions

* `EvalError.IsRuntime`: the failures that the language defines.
* `FailsInLanguage`: an outcome that is a value or one of these failures.
-/

namespace WebRecipe.Condition

/-- The failures that the language defines: all but the forms that are never evaluated. -/
def EvalError.IsRuntime : EvalError → Prop
  | undefinedVariable _ => True
  | propertyOfNothing _ _ => True
  | notFunction _ _ => True
  | searchOperand _ _ => True
  | badPattern _ _ => True
  | badCount _ => True
  | textTooLong => True
  | comparator => True
  | callback _ => True
  | unsupported _ => False

/-- An outcome that is a value or a failure that the language defines. -/
def FailsInLanguage {α : Type} (outcome : Except EvalError α) : Prop :=
  ∀ e, outcome = .error e → e.IsRuntime

namespace FailsInLanguage

variable {α β : Type}

@[simp]
theorem ok (a : α) : FailsInLanguage (.ok a) := nofun

@[simp]
theorem error_iff {e : EvalError} : FailsInLanguage (.error e : Except EvalError α) ↔ e.IsRuntime :=
  ⟨fun h ↦ h e rfl, by rintro h _ ⟨⟩; exact h⟩

theorem bind {x : Except EvalError α} {f : α → Except EvalError β} (hx : FailsInLanguage x)
    (hf : ∀ a, FailsInLanguage (f a)) : FailsInLanguage (x >>= f) := by
  cases x with
  | ok a => exact hf a
  | error e => exact fun e' he ↦ hx e' (by cases he; rfl)

theorem map {x : Except EvalError α} {f : α → β} (hx : FailsInLanguage x) :
    FailsInLanguage (do return f (← x)) :=
  hx.bind fun a ↦ ok (f a)

end FailsInLanguage

open FailsInLanguage

/-! ### Names, properties and operators -/

theorem failsInLanguage_find (b : Bindings) (name : String) : FailsInLanguage (b.find name) := by
  unfold Bindings.find
  split
  · exact ok _
  · split
    · exact ok _
    · exact error_iff.2 trivial

theorem failsInLanguage_getProperty (v : Value) (key : String) :
    FailsInLanguage (getProperty v key) := by
  cases v with
  | undefined | null => exact error_iff.2 trivial
  | bool | number | object => exact ok _
  | text s =>
    simp only [getProperty]
    split
    · exact ok _
    · split <;> exact ok _
  | array items =>
    simp only [getProperty]
    split <;> exact ok _
  | math =>
    simp only [getProperty]
    split <;> exact ok _

theorem failsInLanguage_hasProperty (key : String) (v : Value) :
    FailsInLanguage (hasProperty key v) := by
  cases v with
  | object | array | math => exact ok _
  | _ => exact error_iff.2 trivial

theorem failsInLanguage_applyBinary {op : BinaryOp} (hop : op ≠ .instanceOf) (v w : Value) :
    FailsInLanguage (applyBinary op v w) := by
  cases op with
  | instanceOf => exact absurd rfl hop
  | isIn => exact (failsInLanguage_hasProperty _ _).map
  | _ => exact ok _

theorem failsInLanguage_applyUnary {op : UnaryOp} (hop : op ∈ [.neg, .plus, .not, .typeOf])
    (v : Value) : FailsInLanguage (applyUnary op v) := by
  cases op with
  | neg | plus | not | typeOf => exact ok _
  | _ => simp at hop

/-! ### Methods -/

theorem failsInLanguage_callMath (name : String) (args : Arguments) :
    FailsInLanguage (callMath name args) := by
  unfold callMath
  split
  · exact ok _
  · exact error_iff.2 trivial

theorem failsInLanguage_patternOf (args : Arguments) :
    FailsInLanguage (TextMethod.patternOf args) := by
  unfold TextMethod.patternOf
  simp only
  split
  · exact ok _
  · exact error_iff.2 trivial

theorem failsInLanguage_firstMatch (text : List Char) (args : Arguments) :
    FailsInLanguage (TextMethod.firstMatch text args) := by
  refine (failsInLanguage_patternOf args).bind fun p ↦ ?_
  split <;> exact ok _

theorem failsInLanguage_repeat (text : List Char) (count : Float) :
    FailsInLanguage (TextMethod.repeat text count) := by
  unfold TextMethod.repeat
  split
  · exact ok _
  · exact error_iff.2 trivial
  · split
    · exact error_iff.2 trivial
    · simp only
      split
      · exact ok _
      · exact error_iff.2 trivial

theorem failsInLanguage_padding (text : List Char) (args : Arguments) :
    FailsInLanguage (TextMethod.padding text args) := by
  unfold TextMethod.padding
  simp only
  split
  · exact ok _
  · split
    · exact ok _
    · exact error_iff.2 trivial
  · split
    · exact error_iff.2 trivial
    · exact ok _

theorem failsInLanguage_callTextMethod (s method : String) (args : Arguments) :
    FailsInLanguage (callTextMethod s method args) := by
  unfold callTextMethod
  simp only
  split
  case h_18 => exact failsInLanguage_firstMatch _ _
  case h_19 => exact (failsInLanguage_patternOf args).map
  case h_20 => exact (failsInLanguage_repeat _ _).map
  case h_21 => exact (failsInLanguage_padding _ _).map
  case h_22 => exact (failsInLanguage_padding _ _).map
  case h_23 => exact error_iff.2 trivial
  all_goals exact ok _

theorem failsInLanguage_callArrayMethod (items : List Value) (method : String) (args : Arguments) :
    FailsInLanguage (callArrayMethod items method args) := by
  unfold callArrayMethod
  split
  case h_4 =>
    split
    · exact error_iff.2 trivial
    · exact ok _
  case h_10 => split <;> exact error_iff.2 trivial
  all_goals exact ok _

theorem failsInLanguage_callMethod (v : Value) (method : String) (args : Arguments) :
    FailsInLanguage (callMethod v method args) := by
  unfold callMethod
  split
  · exact error_iff.2 trivial
  · exact error_iff.2 trivial
  · exact failsInLanguage_callMath method args
  · split
    · exact ok _
    · split
      · exact ok _
      · split
        · exact failsInLanguage_callTextMethod _ method args
        · exact failsInLanguage_callArrayMethod _ method args
        · exact error_iff.2 trivial

/-! ### Trees -/

section Parts

variable {b : Bindings}

theorem failsInLanguage_evaluateAll {es : List Expr}
    (h : ∀ e ∈ es, FailsInLanguage (evaluate b e)) : FailsInLanguage (evaluateAll b es) := by
  induction es with
  | nil => exact ok _
  | cons e es ih =>
    obtain ⟨he, hes⟩ := List.forall_mem_cons.1 h
    exact he.bind fun v ↦ (ih hes).map

theorem failsInLanguage_evaluateHoles {rest : List (Expr × String)}
    (h : ∀ e ∈ Expr.templateHoles rest, FailsInLanguage (evaluate b e)) :
    FailsInLanguage (evaluateHoles b rest) := by
  induction rest with
  | nil => exact ok _
  | cons p rest ih =>
    obtain ⟨he, hrest⟩ := List.forall_mem_cons.1 h
    exact he.bind fun v ↦ (ih hrest).map

theorem failsInLanguage_evaluateMemberKey {key : MemberKey}
    (h : ∀ e ∈ key.parts, FailsInLanguage (evaluate b e)) :
    FailsInLanguage (evaluateMemberKey b key) := by
  cases key with
  | name n => exact ok n
  | computed e => exact (h e List.mem_cons_self).map

theorem failsInLanguage_evaluatePropertyKey {key : PropertyKey}
    (h : ∀ e ∈ key.parts, FailsInLanguage (evaluate b e)) :
    FailsInLanguage (evaluatePropertyKey b key) := by
  cases key with
  | name n => exact ok n
  | computed e => exact (h e List.mem_cons_self).map

theorem failsInLanguage_evaluateEntries {entries : List Entry}
    (h : ∀ e ∈ entries.flatMap Entry.parts, FailsInLanguage (evaluate b e)) :
    FailsInLanguage (evaluateEntries b entries) := by
  induction entries with
  | nil => exact ok _
  | cons entry rest ih =>
    rw [List.flatMap_cons, List.forall_mem_append] at h
    cases entry with
    | spread operand => exact ih h.2
    | property key value =>
      obtain ⟨hkey, hvalue⟩ := List.forall_mem_append.1 h.1
      exact (failsInLanguage_evaluatePropertyKey hkey).bind fun k ↦
        (hvalue value List.mem_cons_self).bind fun v ↦ (ih h.2).map

end Parts

theorem CallsMethod.exists_member {callee : Expr} (h : CallsMethod callee) :
    ∃ target key, callee = .member target key := by
  cases h <;> exact ⟨_, _, rfl⟩

/-- Whatever the bindings, an accepted tree has a value or fails as the language says. -/
theorem failsInLanguage_evaluate (b : Bindings) (t : Expr) (h : check t = .ok ()) :
    FailsInLanguage (evaluate b t) := by
  obtain ⟨hself, hparts⟩ := (check_eq_ok_iff_parts t).1 h
  -- What a call calls is not evaluated itself, but its parts are: hence all depths, not one.
  have deep : ∀ p ∈ t.parts, ∀ u, Subterm u p → FailsInLanguage (evaluate b u) := fun p hp u hu ↦
    have : sizeOf u < sizeOf t := Nat.lt_of_le_of_lt hu.sizeOf_le (sizeOf_lt_of_mem_parts hp)
    failsInLanguage_evaluate b u (check_of_subterm hu (hparts p hp))
  have ih : ∀ p ∈ t.parts, FailsInLanguage (evaluate b p) := fun p hp ↦ deep p hp p (.self p)
  cases t with
  | number | text | bool | null | undefined => exact ok _
  | function | arrow | classBody | this | assignment | update | construct | sequence | spread =>
    exact absurd trivial hself.form
  | ident name => exact failsInLanguage_find b name
  | template head rest => exact (failsInLanguage_evaluateHoles ih).map
  | array items => exact (failsInLanguage_evaluateAll ih).map
  | object entries => exact (failsInLanguage_evaluateEntries ih).map
  | member target key =>
    obtain ⟨htarget, hkey⟩ := List.forall_mem_cons.1 ih
    exact htarget.bind fun v ↦ (failsInLanguage_evaluateMemberKey hkey).bind fun k ↦
      failsInLanguage_getProperty v k
  | call callee args =>
    obtain ⟨-, hargs⟩ := List.forall_mem_cons.1 ih
    have hcallee : ∀ p ∈ callee.parts, FailsInLanguage (evaluate b p) := fun p hp ↦
      deep callee List.mem_cons_self p (.inPart hp (.self p))
    have hcall := hself.callee callee args rfl
    obtain ⟨target, key, rfl⟩ := hcall.exists_member
    obtain ⟨htarget, hkey⟩ := List.forall_mem_cons.1 hcallee
    exact htarget.bind fun v ↦ (failsInLanguage_evaluateMemberKey hkey).bind fun k ↦
      (failsInLanguage_evaluateAll hargs).bind fun vs ↦ failsInLanguage_callMethod v k vs
  | unary op operand =>
    exact (ih operand List.mem_cons_self).bind fun v ↦ failsInLanguage_applyUnary hself.operator v
  | binary op left right =>
    obtain ⟨hleft, hright⟩ := List.forall_mem_cons.1 ih
    exact hleft.bind fun v ↦ (hright right List.mem_cons_self).bind fun w ↦
      failsInLanguage_applyBinary hself.operator v w
  | logical op left right =>
    obtain ⟨hleft, hright⟩ := List.forall_mem_cons.1 ih
    refine hleft.bind fun v ↦ ?_
    cases op with
    | nullish => exact absurd rfl hself.operator
    | and | or =>
      simp only
      split
      · first | exact ok v | exact hright right List.mem_cons_self
      · first | exact ok v | exact hright right List.mem_cons_self
  | conditional test consequent alternate =>
    simp only [Expr.parts, List.forall_mem_cons] at ih
    obtain ⟨htest, hconsequent, halternate, -⟩ := ih
    refine htest.bind fun v ↦ ?_
    split
    · exact hconsequent
    · exact halternate
termination_by sizeOf t

/-- Where no entry is a spread, each entry of an object literal gives a setting. -/
theorem length_of_evaluateEntries {b : Bindings} {entries : List Entry}
    {settings : List (String × Value)} (h : ¬ ∃ operand, Entry.spread operand ∈ entries)
    (hs : evaluateEntries b entries = .ok settings) : settings.length = entries.length := by
  induction entries generalizing settings with
  | nil =>
    cases hs
    rfl
  | cons entry rest ih =>
    have hrest : ¬ ∃ operand, Entry.spread operand ∈ rest := fun ⟨operand, ho⟩ ↦
      h ⟨operand, List.mem_cons_of_mem _ ho⟩
    cases entry with
    | spread operand => exact absurd ⟨operand, List.mem_cons_self⟩ h
    | property key value =>
      obtain ⟨k, -, hs⟩ := bind_eq_ok_iff.1 hs
      obtain ⟨v, -, hs⟩ := bind_eq_ok_iff.1 hs
      obtain ⟨vs, hvs, hs⟩ := bind_eq_ok_iff.1 hs
      cases hs
      rw [List.length_cons, List.length_cons, ih hrest hvs]

/-- **Evaluation covers what the policy accepts.** In an accepted tree, whatever the bindings, every
failure at any depth is one that the language defines, and every entry of every object literal is a
property, none of which is passed over. -/
theorem evaluate_of_accepted {t : Expr} (h : check t = .ok ()) (b : Bindings) :
    ∀ u, Subterm u t →
      (∀ e, evaluate b u = .error e → e.IsRuntime) ∧
      ∀ entries, u = .object entries →
        (∀ entry ∈ entries, ∃ key value, entry = .property key value) ∧
        ∀ settings, evaluateEntries b entries = .ok settings →
          settings.length = entries.length := by
  intro u hu
  refine ⟨failsInLanguage_evaluate b u (check_of_subterm hu h), ?_⟩
  rintro entries rfl
  have hspread : ¬ ∃ operand, Entry.spread operand ∈ entries := (permitted_of_subterm hu h).form
  refine ⟨fun entry hentry ↦ ?_, fun settings hs ↦ length_of_evaluateEntries hspread hs⟩
  cases entry with
  | property key value => exact ⟨key, value, rfl⟩
  | spread operand => exact absurd ⟨operand, hentry⟩ hspread

/-- An accepted tree that fails: a method of an unbound name. -/
theorem evaluate_of_accepted_unbound :
    check (.call (.member (.ident "INPUT") (.name "trim")) []) = .ok () ∧
      evaluate [] (.call (.member (.ident "INPUT") (.name "trim")) []) =
        .error (.undefinedVariable "INPUT") ∧
      (EvalError.undefinedVariable "INPUT").IsRuntime := by
  have haccepted : check (.call (.member (.ident "INPUT") (.name "trim")) []) = .ok () := by rfl
  have hfails : evaluate [] (.call (.member (.ident "INPUT") (.name "trim")) []) =
      .error (.undefinedVariable "INPUT") := by rfl
  exact ⟨haccepted, hfails, (evaluate_of_accepted haccepted [] _ (.self _)).1 _ hfails⟩

end WebRecipe.Condition
