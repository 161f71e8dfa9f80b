import WebRecipe.Condition.Basic
import WebRecipe.Proofs.Condition.Sandbox
import WebRecipe.Proofs.Loop.Condition

/-!
# What conditions see

The value of a tree depends on the bindings of the identifiers that stand in it and on nothing else:
operands that are passed over, computed keys, substitutions of templates and the namespace of
mathematical functions, which is bound where nobody binds its name, make no difference. A condition
of a branch or of a loop is evaluated under a single binding, the value that was handed on last. So
it comes to the same decision in all worlds in which this value is the same.

## Main definitions

* `Condition.Bindings.AgreeOn`: two sets of bindings agree on the identifiers of a tree.
* `Action.decided`, `Action.turned`: what is left of a branch, and of the turns of a loop, when the
  condition has been looked at.

## Main results

* `Condition.evaluate_congr`: trees have the same value, or fail alike, under bindings that agree.
* `Action.branch_leads`, `Action.conditionRounds_leads`: what a look at the condition leads to.
* `Action.conditions_see_only_input`: conditions see nothing but the value that was handed on.
-/

namespace WebRecipe

/-! ### Trees -/

namespace Condition

/-- What stands inside a subterm stands inside the tree. -/
theorem Subterm.trans {u v t : Expr} (hu : Subterm u v) (hv : Subterm v t) : Subterm u t := by
  induction hv with
  | self => exact hu
  | inPart hp _ ih => exact .inPart hp ih

/-- Each identifier of a tree has the same value in two sets of bindings, or none in both. -/
def Bindings.AgreeOn (b b' : Bindings) (t : Expr) : Prop :=
  ∀ name, Subterm (.ident name) t → b.lookup name = b'.lookup name

variable {b b' : Bindings}

/-- Bindings that agree on a tree agree on what stands inside it. -/
theorem Bindings.AgreeOn.subterm {t u : Expr} (h : b.AgreeOn b' t) (hu : Subterm u t) :
    b.AgreeOn b' u := by
  exact fun name hname ↦ h name (hname.trans hu)

/-- A name has the same value in bindings that agree on it, be it the namespace of mathematical
functions. -/
theorem find_congr {name : String} (h : b.lookup name = b'.lookup name) :
    b.find name = b'.find name := by
  rw [Bindings.find, Bindings.find, h]

section Parts

theorem evaluateAll_congr {es : List Expr} (h : ∀ e ∈ es, evaluate b e = evaluate b' e) :
    evaluateAll b es = evaluateAll b' es := by
  induction es with
  | nil => rfl
  | cons e es ih =>
    obtain ⟨he, hes⟩ := List.forall_mem_cons.1 h
    rw [evaluateAll, evaluateAll, he, ih hes]

theorem evaluateHoles_congr {rest : List (Expr × String)}
    (h : ∀ e ∈ Expr.templateHoles rest, evaluate b e = evaluate b' e) :
    evaluateHoles b rest = evaluateHoles b' rest := by
  induction rest with
  | nil => rfl
  | cons p rest ih =>
    obtain ⟨he, hrest⟩ := List.forall_mem_cons.1 h
    rw [evaluateHoles, evaluateHoles, he, ih hrest]

theorem evaluateMemberKey_congr {key : MemberKey}
    (h : ∀ e ∈ key.parts, evaluate b e = evaluate b' e) :
    evaluateMemberKey b key = evaluateMemberKey b' key := by
  cases key with
  | name n => rfl
  | computed e => rw [evaluateMemberKey, evaluateMemberKey, h e List.mem_cons_self]

theorem evaluatePropertyKey_congr {key : PropertyKey}
    (h : ∀ e ∈ key.parts, evaluate b e = evaluate b' e) :
    evaluatePropertyKey b key = evaluatePropertyKey b' key := by
  cases key with
  | name n => rfl
  | computed e => rw [evaluatePropertyKey, evaluatePropertyKey, h e List.mem_cons_self]

theorem evaluateEntries_congr {entries : List Entry}
    (h : ∀ e ∈ entries.flatMap Entry.parts, evaluate b e = evaluate b' e) :
    evaluateEntries b entries = evaluateEntries b' entries := by
  induction entries with
  | nil => rfl
  | cons entry rest ih =>
    rw [List.flatMap_cons, List.forall_mem_append] at h
    cases entry with
    | spread operand => rw [evaluateEntries, evaluateEntries, ih h.2]
    | property key value =>
      obtain ⟨hkey, hvalue⟩ := List.forall_mem_append.1 h.1
      rw [evaluateEntries, evaluateEntries, evaluatePropertyKey_congr hkey,
        hvalue value List.mem_cons_self, ih h.2]

end Parts

/-- A tree has the same value, or fails alike, under bindings that agree on its identifiers. -/
theorem evaluate_congr (t : Expr) (h : b.AgreeOn b' t) : evaluate b t = evaluate b' t := by
  -- What a call calls is not evaluated itself, but its parts are: hence all depths, not one.
  have deep : ∀ p ∈ t.parts, ∀ u, Subterm u p → evaluate b u = evaluate b' u := fun p hp u hu ↦
    have : sizeOf u < sizeOf t := Nat.lt_of_le_of_lt hu.sizeOf_le (sizeOf_lt_of_mem_parts hp)
    evaluate_congr u (h.subterm (.inPart hp hu))
  have ih : ∀ p ∈ t.parts, evaluate b p = evaluate b' p := fun p hp ↦ deep p hp p (.self p)
  cases t with
  | ident name => exact find_congr (h name (.self _))
  | template head rest => rw [evaluate, evaluate, evaluateHoles_congr ih]
  | array items =>
    have hitems : evaluateAll b items = evaluateAll b' items := evaluateAll_congr ih
    rw [evaluate, evaluate, hitems]
  | object entries => rw [evaluate, evaluate, evaluateEntries_congr ih]
  | member target key =>
    obtain ⟨htarget, hkey⟩ := List.forall_mem_cons.1 ih
    rw [evaluate, evaluate, htarget, evaluateMemberKey_congr hkey]
  | call callee args =>
    obtain ⟨-, hargs⟩ := List.forall_mem_cons.1 ih
    have hcallee : ∀ p ∈ callee.parts, evaluate b p = evaluate b' p := fun p hp ↦
      deep callee List.mem_cons_self p (.inPart hp (.self p))
    cases callee with
    | member target key =>
      obtain ⟨htarget, hkey⟩ := List.forall_mem_cons.1 hcallee
      rw [evaluate, evaluate, htarget, evaluateMemberKey_congr hkey, evaluateAll_congr hargs]
    | _ => rfl
  | unary op operand => rw [evaluate, evaluate, ih operand List.mem_cons_self]
  | binary op left right =>
    obtain ⟨hleft, hright⟩ := List.forall_mem_cons.1 ih
    rw [evaluate, evaluate, hleft, hright right List.mem_cons_self]
  | logical op left right =>
    obtain ⟨hleft, hright⟩ := List.forall_mem_cons.1 ih
    rw [evaluate, evaluate, hleft, hright right List.mem_cons_self]
  | conditional test consequent alternate =>
    simp only [Expr.parts, List.forall_mem_cons] at ih
    obtain ⟨htest, hconsequent, halternate, -⟩ := ih
    rw [evaluate, evaluate, htest, hconsequent, halternate]
  | _ => rfl
termination_by sizeOf t

/-- A condition has the same value, or fails alike, under bindings that agree on its identifiers. -/
theorem valueOf_congr {source : String} {tree : Expr} (haccepted : accept source = .ok tree)
    (h : b.AgreeOn b' tree) : valueOf source b = valueOf source b' := by
  rw [valueOf, valueOf, haccepted]
  dsimp only [bind, Except.bind]
  rw [evaluate_congr tree h]

end Condition

/-! ### Branches and loops -/

namespace Action

variable {σ σ' : Type}

/-- What a branch decides on when a value was handed on: it fails, or runs a block, if there is
one. -/
def choice (action : String) (hasElse : Bool) (ps : Members) (input : Option Json) :
    Except ActionError (Option (List ActionCall)) := do
  let condition ← conditionOf action ps
  let actions ← ps.body action "actions"
  let elseActions ← (if hasElse then some <$> ps.body action "elseActions" else pure none :
    Except ActionError (Option (List ActionCall)))
  let met ← (Condition.holds condition (bindingsOf input)).mapError (.condition action)
  return if met then some actions else elseActions

/-- What is left of a branch when the decision is made. -/
def decided (cx : Context) : Except ActionError (Option (List ActionCall)) → Action Unit
  | .error err => throw err
  | .ok none => return ()
  | .ok (some block) => showEnd ": End of if" (cx.runBlock block)

/-- What is left of the turns of a loop when the condition has been looked at. -/
def turned (cx : Context) (actions : List ActionCall) (condition : String) (patience : Nat) :
    Except ActionError Bool → Action Unit
  | .error err => throw err
  | .ok false => return ()
  | .ok true => do
    cx.runBlock actions
    conditionRounds cx actions condition patience

/-- A line of output changes nothing that a condition sees, and is followed by a look at it. -/
private theorem leads_look (s : Surroundings σ) (w : World σ) (line action condition : String)
    (f : Bool → Action Unit) :
    (do display line; f (← conditionHolds action condition) : Action Unit).run.Leads s w
      (orFail (.condition action) (Condition.holds condition (bindingsOf w.store.input)) >>= f).run
      (w.showing line) :=
  .step (leads_conditionHolds s (w.showing line) action condition f)

/-- A branch shows lines, looks at its condition and leads to what it decides on. -/
theorem branch_leads (s : Surroundings σ) (w : World σ) (cx : Context) (action : String)
    (hasElse : Bool) (ps : Members) :
    ∃ w₁ : World σ, w₁.store = w.store ∧ (branch action hasElse cx ps).run.Leads s w
      (decided cx (choice action hasElse ps w.store.input)).run w₁ := by
  unfold branch choice
  cases conditionOf action ps with
  | error err => exact ⟨w, rfl, .refl _ _⟩
  | ok condition =>
    cases ps.body action "actions" with
    | error err => exact ⟨w, rfl, .refl _ _⟩
    | ok actions =>
      cases (if hasElse then some <$> ps.body action "elseActions" else pure none :
          Except ActionError (Option (List ActionCall))) with
      | error err => exact ⟨w, rfl, .refl _ _⟩
      | ok elseActions =>
        have hlook := leads_look s w (": Condition: " ++ condition) action condition
        change ∃ w₁ : World σ, _ ∧ Routine.Leads s _ w (decided cx
          ((Condition.holds condition (bindingsOf w.store.input)).mapError (.condition action) >>=
            fun met ↦ pure (if met = true then some actions else elseActions))).run w₁
        cases hmet : Condition.holds condition (bindingsOf w.store.input) with
        | error cause =>
          rw [hmet] at hlook
          exact ⟨w.showing _, rfl, hlook _⟩
        | ok met =>
          rw [hmet] at hlook
          cases met with
          | true => exact ⟨(w.showing _).showing _, rfl, (hlook _).trans (.step (.refl _ _))⟩
          | false =>
            cases elseActions <;>
              exact ⟨(w.showing _).showing _, rfl, (hlook _).trans (.step (.refl _ _))⟩

/-- Each turn of a loop begins with a look at its condition, which leads to what it decides on. -/
theorem conditionRounds_leads (s : Surroundings σ) (w : World σ) (cx : Context)
    (actions : List ActionCall) (condition : String) (patience : Nat) :
    (conditionRounds cx actions condition (patience + 1)).run.Leads s w
      (turned cx actions condition patience
        ((w.conditionIn condition).mapError (.condition "while"))).run w := by
  refine (leads_conditionHolds s w "while" condition _).trans ?_
  cases w.conditionIn condition with
  | error cause => exact .refl _ _
  | ok met => cases met <;> exact .refl _ _

/-- **Conditions see nothing but the value that was handed on.** A tree has the same value, or fails
alike, under all bindings that agree on its identifiers, and so has a condition that is accepted.
In all worlds in which the same value was handed on, a branch that is given the same parameters
leads to the same error, to the same block or to none, and so does each look of a loop at its
condition. Before its first look a loop does not depend on the world at all. -/
theorem conditions_see_only_input :
    (∀ (t : Condition.Expr) (b b' : Condition.Bindings), b.AgreeOn b' t →
      Condition.evaluate b t = Condition.evaluate b' t) ∧
    (∀ source t b b', Condition.accept source = .ok t → Condition.Bindings.AgreeOn b b' t →
      Condition.valueOf source b = Condition.valueOf source b') ∧
    (∀ (s : Surroundings σ) (s' : Surroundings σ') (w : World σ) (w' : World σ'),
      w.store.input = w'.store.input →
        (∀ action hasElse ps, ∃ decision, ∀ cx cx',
          (∃ w₁, w₁.store = w.store ∧
            (branch action hasElse cx ps).run.Leads s w (decided cx decision).run w₁) ∧
          ∃ w₁', w₁'.store = w'.store ∧
            (branch action hasElse cx' ps).run.Leads s' w' (decided cx' decision).run w₁') ∧
        ∀ condition, ∃ decision, ∀ cx cx' actions patience,
          (conditionRounds cx actions condition (patience + 1)).run.Leads s w
            (turned cx actions condition patience decision).run w ∧
          (conditionRounds cx' actions condition (patience + 1)).run.Leads s' w'
            (turned cx' actions condition patience decision).run w') ∧
    ∀ ps, (∃ err, ∀ cx, conditionLoop cx ps = throw err) ∨
      ∃ condition actions, ∀ cx, conditionLoop cx ps =
        showEnd ": End of while loop" (conditionRounds cx actions condition cx.patience) := by
  refine ⟨fun t _ _ ↦ Condition.evaluate_congr t, fun _ _ _ _ ↦ Condition.valueOf_congr,
    fun s s' w w' hinput ↦ ⟨?_, ?_⟩, fun ps ↦ ?_⟩
  · intro action hasElse ps
    refine ⟨choice action hasElse ps w.store.input, fun cx cx' ↦ ⟨branch_leads s w cx .., ?_⟩⟩
    rw [hinput]
    exact branch_leads s' w' cx' ..
  · intro condition
    have hsame : w'.conditionIn condition = w.conditionIn condition :=
      congrArg (fun input ↦ Condition.holds condition (bindingsOf input)) hinput.symm
    refine ⟨_, fun cx cx' actions patience ↦ ⟨conditionRounds_leads s w cx .., ?_⟩⟩
    rw [← hsame]
    exact conditionRounds_leads s' w' cx' ..
  · unfold conditionLoop
    cases conditionOf "while" ps with
    | error err => exact .inl ⟨err, fun _ ↦ rfl⟩
    | ok condition =>
      cases ps.body "while" "actions" with
      | error err => exact .inl ⟨err, fun _ ↦ rfl⟩
      | ok actions => exact .inr ⟨condition, actions, fun _ ↦ rfl⟩

/-- Two stores with different values under another name: `INPUT > 1` has the same value, and a
branch under it leads to the same decision. -/
theorem conditions_see_only_input_beside :
    let t : Condition.Expr := .binary .gt (.ident "INPUT") (.number 1)
    let b : Condition.Bindings := [("INPUT", .number 2), ("other", .null)]
    let b' : Condition.Bindings := [("INPUT", .number 2)]
    let w : World Rehearsal :=
      { store := (Store.put {} "INPUT" (.int 2)).put "other" (.str "a"), rest := {} }
    let w' : World Rehearsal := { store := Store.put {} "INPUT" (.int 2), rest := {} }
    let ps : Members := [("condition", .str "INPUT > 1"), ("actions", .arr [])]
    b.AgreeOn b' t ∧ Condition.evaluate b t = Condition.evaluate b' t ∧
    w.store.input = w'.store.input ∧ ∃ decision, ∀ cx cx',
      (∃ w₁, w₁.store = w.store ∧ (branch "if" false cx ps).run.Leads Rehearsal.surroundings w
        (decided cx decision).run w₁) ∧
      ∃ w₁', w₁'.store = w'.store ∧ (branch "if" false cx' ps).run.Leads Rehearsal.surroundings w'
        (decided cx' decision).run w₁' := by
  intro t b b' w w' ps
  have hagree : b.AgreeOn b' t := by
    intro name hname
    change Condition.Subterm _ (.binary .gt (.ident "INPUT") (.number 1)) at hname
    cases hname with
    | inPart hp hu =>
      rcases List.mem_pair.1 hp with rfl | rfl
      · cases hu with
        | self => rfl
        | inPart hp => cases hp
      · cases hu with
        | inPart hp => cases hp
  have hinput : w.store.input = w'.store.input := rfl
  have hseen := @conditions_see_only_input Rehearsal Rehearsal
  exact ⟨hagree, hseen.1 t b b' hagree, hinput, (hseen.2.2.1 _ _ w w' hinput).1 "if" false ps⟩

end Action
end WebRecipe
