import WebRecipe.Proofs.Plain
import WebRecipe.Proofs.Reach
import WebRecipe.Schema.Recipe

/-!
# What fits a schema

An object without issues has what it must have, and the values of its declared properties have no
issues; an array without issues has items without issues. Filling in the defaults of missing
properties and dropping undeclared ones does not touch the actions nested in a branch or loop, which
are declared without a default.

## Main results

* `Schema.check_object_eq_nil`, `Schema.check_array_eq_nil`, `Schema.check_text_eq_nil`,
  `Schema.check_integer_eq_nil`: when there are no issues.
* `Schema.checked_of_validate`, `Schema.get?_declared_of_validate`: what is known of parameters that
  pass the check, and what the check makes of them.
* `Schema.get?_of_validate`: what the check makes of the parameters that hold nested actions.
* `Schema.exists_validate`: parameters without templates that have no issues before a run pass the
  check.
-/

namespace WebRecipe.Schema

/-! ### Objects and arrays -/

theorem checkProperties_eq_nil {properties : List (String × Schema)} {ms : Members} :
    checkProperties properties ms = [] ↔
      ∀ p ∈ properties, ∀ v, ms.get? p.1 = some v → p.2.check v = [] := by
  induction properties with
  | nil => exact iff_of_true rfl nofun
  | cons p rest ih =>
    obtain ⟨key, s⟩ := p
    rw [checkProperties, List.append_eq_nil_iff, ih, List.forall_mem_cons]
    refine and_congr ?_ Iff.rfl
    cases ms.get? key with
    | none => exact iff_of_true rfl nofun
    | some v => simp

private theorem missingIssues_eq_nil {required : List String} {ms : Members} :
    missingIssues required ms = [] ↔ ∀ key ∈ required, ms.has key = true := by
  simp [missingIssues, List.filter_eq_nil_iff]

/-- A value has no issues when it is an object that has what it must have, and the values of its
declared properties have none. -/
theorem check_object_eq_nil {properties : List (String × Schema)} {required : List String}
    {missingFirst : Bool} {v : Json} :
    (object properties required missingFirst).check v = [] ↔
      ∃ ms, v = .obj ms ∧ (∀ key ∈ required, Members.has ms key = true) ∧
        ∀ p ∈ properties, ∀ w, Members.get? ms p.1 = some w → p.2.check w = [] := by
  cases v with
  | obj ms =>
    simp only [Json.obj.injEq, exists_eq_left']
    rw [check, ← missingIssues_eq_nil, ← checkProperties_eq_nil]
    cases missingFirst <;> simp [and_comm]
  | _ => exact iff_of_false nofun nofun

/-- The value of a declared property of a value without issues has none. -/
theorem check_property {s : Schema} {ms : Members} (h : s.check (.obj ms) = [])
    {p : String × Schema} (hp : p ∈ s.properties) {v : Json} (hv : ms.get? p.1 = some v) :
    p.2.check v = [] := by
  cases s with
  | object properties required missingFirst =>
    obtain ⟨_, heq, -, hproperties⟩ := check_object_eq_nil.1 h
    cases heq
    exact hproperties p hp v hv
  | _ => cases hp

/-- A value has no issues when it is an array that is long enough and whose items have none. -/
theorem check_array_eq_nil {minItems : Nat} {item : Schema} {v : Json} :
    (array minItems item).check v = [] ↔
      ∃ items, v = .arr items ∧ minItems ≤ items.length ∧ ∀ w ∈ items, item.check w = [] := by
  cases v with
  | arr items =>
    simp only [Json.arr.injEq, exists_eq_left']
    rw [check, List.append_eq_nil_iff]
    refine and_congr ?_ ?_
    · rw [sizeIssue]
      split
      case isTrue h => exact iff_of_false nofun (Nat.not_le.2 h)
      case isFalse h => exact iff_of_true rfl (Nat.not_lt.1 h)
    · rw [List.flatMap_eq_nil_iff]
      constructor
      · intro h w hw
        obtain ⟨i, hi⟩ := List.getElem?_of_mem hw
        exact List.map_eq_nil_iff.1 (h (w, i) (List.mk_mem_zipIdx_iff_getElem?.2 hi))
      · rintro h ⟨w, i⟩ hw
        have hmem := List.mem_of_getElem? (List.mk_mem_zipIdx_iff_getElem?.1 hw)
        exact List.map_eq_nil_iff.2 (h w hmem)
  | _ => exact iff_of_false nofun nofun

/-- A value has no issues when it is a text that is long enough. -/
theorem check_text_eq_nil {minLength : Nat} {v : Json} :
    (text minLength).check v = [] ↔ ∃ s, v = .str s ∧ minLength ≤ s.length := by
  cases v with
  | str s =>
    rw [check, lengthIssue]
    simp
  | _ => exact iff_of_false nofun nofun

/-- A value has no issues when it is a whole number between the limits. -/
theorem check_integer_eq_nil {least greatest default : Option Int} {v : Json} :
    (integer least greatest default).check v = [] ↔ isInteger v = true ∧
      (∀ limit ∈ least, isBelow v limit = false) ∧
      (∀ limit ∈ greatest, isAbove v limit = false) := by
  rw [check, List.append_eq_nil_iff, List.append_eq_nil_iff, and_assoc]
  refine and_congr ?_ (and_congr ?_ ?_)
  · cases hv : isInteger v <;> simp [typeIssue]
  · cases least <;> simp [leastIssue]
  · cases greatest <;> simp [greatestIssue]

/-! ### Declared parameters -/

/-- Parameters that pass the check have no issues. -/
theorem check_of_validate {action : String} {s : Schema} (hs : ofAction? action = some s)
    {ps qs : Members} (h : validate action ps = .ok qs) : s.check (.obj ps) = [] := by
  rw [validate, hs] at h
  dsimp only at h
  split at h
  case isFalse => cases h
  case isTrue hissues => exact (List.append_eq_nil_iff.1 (List.isEmpty_iff.1 hissues)).1

/-- Parameters that pass the check have those that an action cannot do without, and the values of
the declared ones have no issues. -/
theorem checked_of_validate {action : String} {required optional : List (String × Schema)}
    (hs : ofAction? action = some (params required optional)) {ps qs : Members}
    (h : validate action ps = .ok qs) :
    (∀ p ∈ required, (ps.get? p.1).isSome = true) ∧
      ∀ p ∈ required ++ optional, ∀ v, ps.get? p.1 = some v → p.2.check v = [] := by
  obtain ⟨ms, hms, hrequired, hdeclared⟩ := check_object_eq_nil.1 (check_of_validate hs h)
  cases hms
  refine ⟨fun p hp ↦ ?_, hdeclared⟩
  rw [← Members.has_eq_isSome]
  exact hrequired p.1 (List.mem_map_of_mem hp)

/-! ### Nested actions -/

/-- A property without a default is left alone where defaults are filled in. -/
theorem get?_withDefaults {s : Schema} {ms : Members} {key : String}
    (h : ∀ p ∈ s.properties, p.1 = key → p.2.default? = none) :
    (s.withDefaults ms).get? key = ms.get? key := by
  rw [withDefaults]
  generalize s.properties = properties at h
  induction properties generalizing ms with
  | nil => rfl
  | cons p rest ih =>
    obtain ⟨name, p⟩ := p
    obtain ⟨hp, hrest⟩ := List.forall_mem_cons.1 h
    rw [List.foldl_cons, ih hrest]
    dsimp only
    split
    case h_1 d hd =>
      split
      · rfl
      · refine Members.get?_set_of_ne fun hkey ↦ ?_
        rw [hp hkey.symm] at hd
        cases hd
    case h_2 => rfl

/-- The check leaves a declared parameter as it is that has no default. -/
theorem get?_declared_of_validate {action : String} {s : Schema} (hs : ofAction? action = some s)
    (hdrops : keepsUndeclared action = false) {ps qs : Members} (h : validate action ps = .ok qs)
    {key : String} (hdeclared : ∃ p ∈ s.properties, p.1 = key)
    (hfilled : ∀ p ∈ s.properties, p.1 = key → p.2.default? = none) :
    qs.get? key = ps.get? key := by
  obtain ⟨p, hp, rfl⟩ := hdeclared
  have hstays (v : Json) : s.properties.any (fun q ↦ q.1 == p.1) = true :=
    List.any_eq_true.2 ⟨p, hp, beq_iff_eq.2 rfl⟩
  rw [validate, hs] at h
  dsimp only at h
  split at h
  case isFalse => cases h
  case isTrue =>
    cases h
    rw [hdrops, if_neg Bool.false_ne_true, declaredOnly, Members.get?_filter hstays,
      get?_withDefaults hfilled]

/-- An action that performs nested actions has a schema, in which the parameters that hold them are
declared as such, and its undeclared parameters are dropped. -/
private theorem ofAction?_of_nestingParams {action key : String} (h : key ∈ nestingParams action) :
    keepsUndeclared action = false ∧ ∃ s, ofAction? action = some s ∧
      (∃ p ∈ s.properties, p.1 = key) ∧ ∀ p ∈ s.properties, p.1 = key → p.2 = body := by
  rw [nestingParams.eq_def] at h
  split at h
  case h_6 => cases h
  all_goals
    simp only [List.mem_cons, List.not_mem_nil, or_false] at h
    refine ⟨rfl, _, rfl, ?_⟩
  case h_1 => rcases h with rfl | rfl <;> simp [properties, params]
  all_goals
    subst h
    simp [properties, params]

/-- The check leaves nested actions as they are, and they have no issues. -/
theorem get?_of_validate {action key : String} (hkey : key ∈ nestingParams action)
    {ps qs : Members} (h : validate action ps = .ok qs) :
    qs.get? key = ps.get? key ∧ ∀ v, ps.get? key = some v → body.check v = [] := by
  obtain ⟨hdrops, s, hs, hdeclared, hbody⟩ := ofAction?_of_nestingParams hkey
  have hfilled : ∀ q ∈ s.properties, q.1 = key → q.2.default? = none := by
    intro q hq hqkey
    rw [hbody q hq hqkey]
    rfl
  refine ⟨get?_declared_of_validate hs hdrops h hdeclared hfilled, fun v hv ↦ ?_⟩
  obtain ⟨p, hp, rfl⟩ := hdeclared
  rw [← hbody p hp rfl]
  exact check_property (check_of_validate hs h) hp hv

/-! ### Before and at a run -/

/-- The check fails with the rules that the parameters break. -/
theorem validate_eq_error {action : String} {ps : Members} {err : ActionError}
    (h : validate action ps = .error err) : ∃ details, err = .invalidParams action details := by
  rw [validate] at h
  split at h
  · cases h
  · dsimp only at h
    split at h
    · cases h
    · cases h
      exact ⟨_, rfl⟩

/-- Parameters without issues pass the check, and missing ones with a default are filled in. -/
theorem validate_of_check {action : String} {s : Schema} (hs : ofAction? action = some s)
    {ps : Members} (hcheck : s.check (.obj ps) = [])
    (hurls : urlIssues action ps (fun _ ↦ false) = []) : validate action ps =
      .ok (if keepsUndeclared action then s.withDefaults ps
        else s.declaredOnly (s.withDefaults ps)) := by
  rw [validate, hs]
  dsimp only
  rw [hcheck, hurls]
  rfl

/-- Parameters without issues pass the check. -/
theorem exists_validate_of_check {action : String} {s : Schema} (hs : ofAction? action = some s)
    {ps : Members} (hcheck : s.check (.obj ps) = [])
    (hurls : urlIssues action ps (fun _ ↦ false) = []) : ∃ qs, validate action ps = .ok qs :=
  ⟨_, validate_of_check hs hcheck hurls⟩

/-- Parameters without templates that have no issues before a run pass the check. -/
theorem exists_validate {action path : String} {ps : Members} (hplain : (Json.obj ps).Plain)
    (h : paramIssues action ps path = []) : ∃ qs, validate action ps = .ok qs := by
  have htemplated : isTemplated ps = fun _ ↦ false := by
    funext key
    rw [isTemplated]
    cases hv : ps.get? key with
    | none => rfl
    | some v => exact hplain v (Json.parts_member (Members.mem_of_get? hv) v.mem_parts_self)
  rw [paramIssues] at h
  cases hs : ofAction? action with
  | none =>
    rw [validate, hs]
    exact ⟨ps, rfl⟩
  | some s =>
    rw [hs, htemplated] at h
    obtain ⟨hcheck, hurls⟩ := List.append_eq_nil_iff.1 (List.map_eq_nil_iff.1 h)
    refine exists_validate_of_check hs ?_ hurls
    simpa using hcheck

end WebRecipe.Schema
