import WebRecipe.Condition.Policy
import WebRecipe.Proofs.Outcome

/-!
# The sandbox of conditions

What the policy lets through, said without the policy. A tree has *parts*, the expressions
directly inside it, and *subterms*, the expressions inside it at any depth, itself included. A
tree is *permitted* by itself when its own form, its operator, the names it writes and, if it is a
call, what it calls are allowed.

The policy accepts a tree exactly when all its subterms are permitted
(`check_eq_ok_iff_sandboxed`). One level of the tree at a time this is `check_eq_ok_iff_parts`.

## Main definitions

* `Expr.parts`, `Subterm`: the expressions inside an expression.
* `Expr.Permitted`: what is asked of each of them.

## Main results

* `check_of_subterm`: what stands inside an accepted tree is accepted.
* `check_eq_ok_iff_sandboxed`: the policy accepts exactly the trees whose subterms are permitted.
-/

namespace WebRecipe.Condition

/-! ### Parts and subterms -/

/-- The expression that a member key is computed from, if it is computed. -/
def MemberKey.parts : MemberKey → List Expr
  | name _ => []
  | computed e => [e]

/-- The expression that a property key is computed from, if it is computed. -/
def PropertyKey.parts : PropertyKey → List Expr
  | name _ => []
  | computed e => [e]

/-- The expressions directly inside an entry of an object literal. -/
def Entry.parts : Entry → List Expr
  | property key value => key.parts ++ [value]
  | spread operand => [operand]

/-- The expressions directly inside an expression. -/
def Expr.parts : Expr → List Expr
  | .number _ | .text _ | .bool _ | .null | .undefined | .ident _ => []
  | .function | .arrow | .classBody | .this => []
  | .template _ rest => templateHoles rest
  | .array items => items
  | .object entries => entries.flatMap Entry.parts
  | .member target key => target :: key.parts
  | .call callee args => callee :: args
  | .unary _ operand => [operand]
  | .binary _ left right => [left, right]
  | .logical _ left right => [left, right]
  | .conditional test consequent alternate => [test, consequent, alternate]
  | .assignment target value => [target, value]
  | .update operand => [operand]
  | .construct callee args => callee :: args
  | .sequence first second rest => first :: second :: rest
  | .spread operand => [operand]

/-- `Subterm u t` says that `u` is `t` or stands inside it at some depth. -/
inductive Subterm : Expr → Expr → Prop where
  | self (t : Expr) : Subterm t t
  | inPart {u p t : Expr} (hp : p ∈ t.parts) (hu : Subterm u p) : Subterm u t

/-! ### What is asked of one expression -/

/-- The forms that no condition may have. -/
def Expr.IsRefusedForm : Expr → Prop
  | .function | .arrow | .classBody | .this => True
  | .assignment _ _ | .update _ | .construct _ _ | .sequence _ _ _ | .spread _ => True
  | .object entries => ∃ operand, Entry.spread operand ∈ entries
  | _ => False

/-- The operator of an expression, if it has one, is one of those that conditions may use. -/
def Expr.HasSafeOperator : Expr → Prop
  | .unary op _ => op ∈ [.neg, .plus, .not, .typeOf]
  | .binary op _ _ => op ≠ .instanceOf
  | .logical op _ _ => op ≠ .nullish
  | _ => True

/-- `t.Writes name` says that `t` itself writes `name` as an identifier, as the name of a member,
as a string between brackets or as a plain key of an object literal. -/
inductive Expr.Writes : Expr → String → Prop where
  | ident (name : String) : Writes (.ident name) name
  | memberName (target : Expr) (name : String) : Writes (.member target (.name name)) name
  | memberText (target : Expr) (name : String) :
      Writes (.member target (.computed (.text name))) name
  | property {entries : List Entry} {name : String} {value : Expr}
      (h : .property (.name name) value ∈ entries) : Writes (.object entries) name

/-- `CallsMethod callee` says that `callee` is a member of `Math`, or a member whose key is
written as one of the methods that may be called. -/
inductive CallsMethod : Expr → Prop where
  | ofMath (key : MemberKey) : CallsMethod (.member (.ident "Math") key)
  | named (target : Expr) {name : String} (h : name ∈ safeMethods) :
      CallsMethod (.member target (.name name))
  | quoted (target : Expr) {name : String} (h : name ∈ safeMethods) :
      CallsMethod (.member target (.computed (.text name)))

/-- What an expression must satisfy by itself, whatever is inside it. -/
structure Expr.Permitted (t : Expr) : Prop where
  form : ¬ t.IsRefusedForm
  operator : t.HasSafeOperator
  names : ∀ name, t.Writes name → name ∉ blockedNames
  callee : ∀ callee args, t = .call callee args → CallsMethod callee

/-! ### Checking one level -/

theorem isBlocked_iff {name : String} : isBlocked name = true ↔ name ∈ blockedNames := by
  simp [isBlocked]

theorem refuseBlocked_eq_ok_iff {name : String} :
    refuseBlocked name = .ok () ↔ name ∉ blockedNames := by
  unfold refuseBlocked
  split <;> simp_all [isBlocked_iff]

theorem checkAll_eq_ok_iff {es : List Expr} :
    checkAll es = .ok () ↔ ∀ e ∈ es, check e = .ok () := by
  induction es with
  | nil => simp [checkAll]
  | cons e es ih => simp only [checkAll, bind_eq_ok_unit, ih, List.forall_mem_cons]

theorem checkHoles_eq_ok_iff {rest : List (Expr × String)} :
    checkHoles rest = .ok () ↔ ∀ e ∈ Expr.templateHoles rest, check e = .ok () := by
  induction rest with
  | nil => simp [checkHoles, Expr.templateHoles]
  | cons p rest ih =>
    simp only [Expr.templateHoles] at ih
    simp only [checkHoles, bind_eq_ok_unit, ih, Expr.templateHoles, List.map_cons,
      List.forall_mem_cons]

/-- A member key passes when the name it writes, if any, is not blocked and its part passes. -/
theorem checkMemberKey_eq_ok_iff (target : Expr) {key : MemberKey} :
    checkMemberKey key = .ok () ↔
      (∀ name, (Expr.member target key).Writes name → name ∉ blockedNames) ∧
        ∀ e ∈ key.parts, check e = .ok () := by
  cases key with
  | name n =>
    simp only [checkMemberKey, refuseBlocked_eq_ok_iff, MemberKey.parts, List.not_mem_nil]
    constructor
    · rintro h
      refine ⟨fun name hw ↦ ?_, nofun⟩
      cases hw
      exact h
    · exact fun h ↦ h.1 n (.memberName target n)
  | computed e =>
    cases e with
    | text s =>
      simp only [checkMemberKey, refuseBlocked_eq_ok_iff, MemberKey.parts, List.mem_singleton,
        forall_eq, check, and_true]
      constructor
      · rintro h name hw
        cases hw
        exact h
      · exact fun h ↦ h s (.memberText target s)
    | _ =>
      simp only [checkMemberKey, MemberKey.parts, List.mem_singleton, forall_eq]
      refine ⟨fun h ↦ ⟨?_, h⟩, fun h ↦ h.2⟩
      rintro name ⟨⟩

theorem checkPropertyKey_eq_ok_iff {key : PropertyKey} :
    checkPropertyKey key = .ok () ↔
      (∀ name, key = .name name → name ∉ blockedNames) ∧ ∀ e ∈ key.parts, check e = .ok () := by
  cases key with
  | name n => simp [checkPropertyKey, refuseBlocked_eq_ok_iff, PropertyKey.parts]
  | computed e => simp [checkPropertyKey, PropertyKey.parts]

private theorem writes_object_cons {entry : Entry} {rest : List Entry} {name : String} :
    (Expr.object (entry :: rest)).Writes name ↔
      (∃ value, entry = .property (.name name) value) ∨ (Expr.object rest).Writes name := by
  constructor
  · rintro (_ | _ | _ | @⟨_, _, value, h⟩)
    rcases List.mem_cons.1 h with h | h
    · exact .inl ⟨value, h.symm⟩
    · exact .inr (.property h)
  · rintro (⟨value, rfl⟩ | (_ | _ | _ | h))
    · exact .property List.mem_cons_self
    · exact .property (List.mem_cons_of_mem _ h)

/-- The entries of an object literal pass when none is a spread, no plain key is blocked and all
their parts pass. -/
theorem checkEntries_eq_ok_iff {entries : List Entry} :
    checkEntries entries = .ok () ↔
      (¬ ∃ operand, Entry.spread operand ∈ entries) ∧
      (∀ name, (Expr.object entries).Writes name → name ∉ blockedNames) ∧
        ∀ e ∈ entries.flatMap Entry.parts, check e = .ok () := by
  induction entries with
  | nil =>
    simp only [checkEntries, List.not_mem_nil, exists_false, not_false_eq_true, List.flatMap_nil,
      true_and, true_iff]
    refine ⟨fun name hw ↦ ?_, nofun⟩
    rcases hw with _ | _ | _ | h
    cases h
  | cons entry rest ih =>
    cases entry with
    | spread operand =>
      simp only [checkEntries, reduceCtorEq, false_iff, not_and]
      exact fun h ↦ absurd ⟨operand, List.mem_cons_self⟩ h
    | property key value =>
      simp only [checkEntries, bind_eq_ok_unit, ih, checkPropertyKey_eq_ok_iff, writes_object_cons,
        List.flatMap_cons, Entry.parts, List.mem_append, List.mem_cons, List.not_mem_nil, or_false,
        reduceCtorEq, false_or, Entry.property.injEq]
      constructor
      · rintro ⟨⟨hkey, hparts⟩, hvalue, hspread, hnames, hrest⟩
        refine ⟨hspread, ?_, ?_⟩
        · rintro name (⟨_, hk, -⟩ | hw)
          · exact hkey name hk
          · exact hnames name hw
        · rintro e ((he | rfl) | he)
          · exact hparts e he
          · exact hvalue
          · exact hrest e he
      · rintro ⟨hspread, hnames, hparts⟩
        exact ⟨⟨fun name hk ↦ hnames name (.inl ⟨value, hk, rfl⟩),
          fun e he ↦ hparts e (.inl (.inl he))⟩, hparts value (.inl (.inr rfl)), hspread,
          fun name hw ↦ hnames name (.inr hw), fun e he ↦ hparts e (.inr he)⟩

theorem isMath_iff {e : Expr} : e.isMath = true ↔ e = .ident "Math" := by
  cases e <;> simp [Expr.isMath, mathName]

theorem constant?_eq_some_iff {key : MemberKey} {name : String} :
    key.constant? = some name ↔ key = .name name ∨ key = .computed (.text name) := by
  rcases key with n | e
  · simp [MemberKey.constant?]
  · cases e <;> simp [MemberKey.constant?]

theorem checkMethod_eq_ok_iff {target : Expr} {key : MemberKey} :
    checkMethod target key = .ok () ↔ CallsMethod (.member target key) := by
  unfold checkMethod
  split
  case isTrue h =>
    obtain rfl := isMath_iff.1 h
    exact iff_of_true rfl (.ofMath key)
  case isFalse h =>
    have hmath : target ≠ .ident "Math" := fun ht ↦ h (isMath_iff.2 ht)
    split
    case h_1 name hkey =>
      simp only [isSafeMethod, List.contains_iff_mem, ite_eq_left_iff, reduceCtorEq, imp_false,
        Decidable.not_not]
      rcases constant?_eq_some_iff.1 hkey with rfl | rfl
      · refine ⟨.named target, fun hcall ↦ ?_⟩
        cases hcall with
        | ofMath => exact absurd rfl hmath
        | named _ hname => exact hname
      · refine ⟨.quoted target, fun hcall ↦ ?_⟩
        cases hcall with
        | ofMath => exact absurd rfl hmath
        | quoted _ hname => exact hname
    case h_2 hkey =>
      simp only [reduceCtorEq, false_iff]
      intro hcall
      cases hcall with
      | ofMath => exact hmath rfl
      | named | quoted => simp [MemberKey.constant?] at hkey

/-- A call passes when what it calls passes as an expression and may be called, and its arguments
pass. -/
theorem check_call_eq_ok_iff {callee : Expr} {args : List Expr} :
    check (.call callee args) = .ok () ↔
      CallsMethod callee ∧ check callee = .ok () ∧ ∀ e ∈ args, check e = .ok () := by
  cases callee with
  | member target key =>
    simp only [check, bind_eq_ok_unit, checkMethod_eq_ok_iff, checkAll_eq_ok_iff]
    exact ⟨fun ⟨htarget, hkey, hcall, hargs⟩ ↦ ⟨hcall, ⟨htarget, hkey⟩, hargs⟩,
      fun ⟨hcall, ⟨htarget, hkey⟩, hargs⟩ ↦ ⟨htarget, hkey, hcall, hargs⟩⟩
  | _ =>
    simp only [check, bind_eq_ok_unit, reduceCtorEq, and_false, false_iff, not_and]
    rintro ⟨⟩

/-- The policy looks at one level of a tree and then at its parts. -/
theorem check_eq_ok_iff_parts (t : Expr) :
    check t = .ok () ↔ t.Permitted ∧ ∀ e ∈ t.parts, check e = .ok () := by
  cases t with
  | number | text | bool | null | undefined =>
    exact iff_of_true rfl ⟨⟨id, trivial, nofun, nofun⟩, nofun⟩
  | function | arrow | classBody | this | assignment | update | construct | sequence | spread =>
    exact iff_of_false nofun fun h ↦ h.1.form trivial
  | ident name =>
    have hname : check (.ident name) = .ok () ↔ name ∉ blockedNames := by
      simp only [check]
      split <;> simp_all [isBlocked_iff]
    rw [hname]
    refine ⟨fun h ↦ ⟨⟨id, trivial, ?_, nofun⟩, nofun⟩, fun h ↦ h.1.names name (.ident name)⟩
    rintro _ ⟨⟩
    exact h
  | template head rest =>
    rw [check, checkHoles_eq_ok_iff]
    exact (and_iff_right ⟨id, trivial, nofun, nofun⟩).symm
  | array items =>
    rw [check, checkAll_eq_ok_iff]
    exact (and_iff_right ⟨id, trivial, nofun, nofun⟩).symm
  | object entries =>
    rw [check, checkEntries_eq_ok_iff]
    exact ⟨fun h ↦ ⟨⟨h.1, trivial, h.2.1, nofun⟩, h.2.2⟩,
      fun h ↦ ⟨h.1.form, h.1.names, h.2⟩⟩
  | member target key =>
    simp only [check, bind_eq_ok_unit, checkMemberKey_eq_ok_iff target, Expr.parts,
      List.forall_mem_cons]
    exact ⟨fun h ↦ ⟨⟨id, trivial, h.2.1, nofun⟩, h.1, h.2.2⟩,
      fun h ↦ ⟨h.2.1, h.1.names, h.2.2⟩⟩
  | call callee args =>
    rw [check_call_eq_ok_iff]
    simp only [Expr.parts, List.forall_mem_cons]
    refine ⟨fun h ↦ ⟨⟨id, trivial, nofun, ?_⟩, h.2⟩, fun h ↦ ⟨h.1.callee callee args rfl, h.2⟩⟩
    rintro _ _ ⟨⟩
    exact h.1
  | unary op operand =>
    have hop : check (.unary op operand) = .ok () ↔
        op ∈ [.neg, .plus, .not, .typeOf] ∧ check operand = .ok () := by
      cases op <;> simp [check, UnaryOp.isSafe]
    rw [hop]
    simp only [Expr.parts, List.forall_mem_cons, List.not_mem_nil, false_implies, implies_true,
      and_true]
    exact ⟨fun h ↦ ⟨⟨id, h.1, nofun, nofun⟩, h.2⟩, fun h ↦ ⟨h.1.operator, h.2⟩⟩
  | binary op left right =>
    have hop : check (.binary op left right) = .ok () ↔
        op ≠ .instanceOf ∧ check left = .ok () ∧ check right = .ok () := by
      cases op <;> simp [check, bind_eq_ok_unit]
    rw [hop]
    simp only [Expr.parts, List.forall_mem_cons, List.not_mem_nil, false_implies, implies_true,
      and_true]
    exact ⟨fun h ↦ ⟨⟨id, h.1, nofun, nofun⟩, h.2⟩, fun h ↦ ⟨h.1.operator, h.2⟩⟩
  | logical op left right =>
    have hop : check (.logical op left right) = .ok () ↔
        op ≠ .nullish ∧ check left = .ok () ∧ check right = .ok () := by
      cases op <;> simp [check, bind_eq_ok_unit]
    rw [hop]
    simp only [Expr.parts, List.forall_mem_cons, List.not_mem_nil, false_implies, implies_true,
      and_true]
    exact ⟨fun h ↦ ⟨⟨id, h.1, nofun, nofun⟩, h.2⟩, fun h ↦ ⟨h.1.operator, h.2⟩⟩
  | conditional test consequent alternate =>
    simp only [check, bind_eq_ok_unit, Expr.parts, List.forall_mem_cons, List.not_mem_nil,
      false_implies, implies_true, and_true]
    exact (and_iff_right ⟨id, trivial, nofun, nofun⟩).symm

/-! ### All levels -/

private theorem sizeOf_lt_of_mem_entry_parts {entry : Entry} {e : Expr} (h : e ∈ entry.parts) :
    sizeOf e < sizeOf entry := by
  cases entry with
  | spread operand =>
    obtain rfl := List.mem_singleton.1 h
    simp
  | property key value =>
    simp only [Entry.parts, List.mem_append, List.mem_singleton] at h
    rcases h with h | rfl
    · cases key with
      | name => simp [PropertyKey.parts] at h
      | computed key =>
        obtain rfl := List.mem_singleton.1 h
        simp only [Entry.property.sizeOf_spec, PropertyKey.computed.sizeOf_spec]
        omega
    · simp only [Entry.property.sizeOf_spec]
      omega

/-- A part is smaller than what it is a part of. -/
theorem sizeOf_lt_of_mem_parts {t e : Expr} (h : e ∈ t.parts) : sizeOf e < sizeOf t := by
  cases t with
  | template head rest =>
    obtain ⟨⟨_, piece⟩, hp, rfl⟩ := List.mem_map.1 h
    have := List.sizeOf_lt_of_mem hp
    simp only [Prod.mk.sizeOf_spec] at this
    simp only [Expr.template.sizeOf_spec]
    omega
  | array items =>
    have : sizeOf e < sizeOf items := List.sizeOf_lt_of_mem h
    simp only [Expr.array.sizeOf_spec]
    omega
  | object entries =>
    obtain ⟨entry, hentry, he⟩ := List.mem_flatMap.1 h
    have := List.sizeOf_lt_of_mem hentry
    have := sizeOf_lt_of_mem_entry_parts he
    simp only [Expr.object.sizeOf_spec]
    omega
  | member target key =>
    rcases List.mem_cons.1 h with rfl | h
    · simp only [Expr.member.sizeOf_spec]
      omega
    · cases key with
      | name => simp [MemberKey.parts] at h
      | computed key =>
        obtain rfl := List.mem_singleton.1 h
        simp only [Expr.member.sizeOf_spec, MemberKey.computed.sizeOf_spec]
        omega
  | call callee args | construct callee args =>
    rcases List.mem_cons.1 h with rfl | h
    · simp
      omega
    · have := List.sizeOf_lt_of_mem h
      simp
      omega
  | sequence first second rest =>
    simp only [Expr.parts, List.mem_cons] at h
    rcases h with rfl | rfl | h
    · simp
      omega
    · simp
      omega
    · have := List.sizeOf_lt_of_mem h
      simp
      omega
  | number | text | bool | null | undefined | ident | function | arrow | classBody | this => cases h
  | unary | binary | logical | conditional | assignment | update | spread =>
    simp only [Expr.parts, List.mem_cons, List.not_mem_nil, or_false] at h
    rcases h with rfl | rfl | rfl <;> simp <;> omega

/-- What stands inside an accepted tree is accepted. -/
theorem check_of_subterm {u t : Expr} (hu : Subterm u t) (h : check t = .ok ()) :
    check u = .ok () := by
  induction hu with
  | self => exact h
  | inPart hp _ ih => exact ih (((check_eq_ok_iff_parts _).1 h).2 _ hp)

theorem permitted_of_subterm {u t : Expr} (hu : Subterm u t) (h : check t = .ok ()) :
    u.Permitted :=
  ((check_eq_ok_iff_parts u).1 (check_of_subterm hu h)).1

/-- A tree in which everything is permitted is accepted. -/
theorem check_of_forall_permitted (t : Expr) (h : ∀ u, Subterm u t → u.Permitted) :
    check t = .ok () := by
  refine (check_eq_ok_iff_parts t).2 ⟨h t (.self t), fun p hp ↦ ?_⟩
  have : sizeOf p < sizeOf t := sizeOf_lt_of_mem_parts hp
  exact check_of_forall_permitted p fun u hu ↦ h u (.inPart hp hu)
termination_by sizeOf t

theorem Subterm.sizeOf_le {u t : Expr} (hu : Subterm u t) : sizeOf u ≤ sizeOf t := by
  induction hu with
  | self => exact Nat.le_refl _
  | inPart hp _ ih => exact Nat.le_trans ih (Nat.le_of_lt (sizeOf_lt_of_mem_parts hp))

/-- **The policy is the sandbox.** A tree is accepted exactly when, among the expressions in it at
any depth and itself, none has a refused form, every operator is a safe one, no name that is
written is blocked, and every call calls a member of `Math` or a listed method. -/
theorem check_eq_ok_iff_sandboxed (t : Expr) :
    check t = .ok () ↔
      (∀ u, Subterm u t → ¬ u.IsRefusedForm) ∧
      (∀ u, Subterm u t → u.HasSafeOperator) ∧
      (∀ u name, Subterm u t → u.Writes name → name ∉ blockedNames) ∧
        ∀ callee args, Subterm (.call callee args) t → CallsMethod callee := by
  constructor
  · intro h
    exact ⟨fun u hu ↦ (permitted_of_subterm hu h).form,
      fun u hu ↦ (permitted_of_subterm hu h).operator,
      fun u name hu ↦ (permitted_of_subterm hu h).names name,
      fun callee args hu ↦ (permitted_of_subterm hu h).callee callee args rfl⟩
  · rintro ⟨hform, hoperator, hnames, hcall⟩
    refine check_of_forall_permitted t fun u hu ↦
      ⟨hform u hu, hoperator u hu, fun name ↦ hnames u name hu, ?_⟩
    rintro callee args rfl
    exact hcall callee args hu

end WebRecipe.Condition
