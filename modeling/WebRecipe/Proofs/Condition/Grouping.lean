import WebRecipe.Condition.Grammar

/-!
# Operator precedence

The tree of a chain of operands is told by the operator that is applied last: the loosest one, and
of several that are as loose the last one, or the first one for `**`. What stands before it and what
stands after it are its operands. `Chain.group` joins the operands strength by strength and comes to
the same tree.

## Main definitions

* `ChainOp.strengths`: the operators by strength.
* `ChainOp.IsLast`: an operator between others is applied last.
* `Grouped`: the trees of a chain.

## Main results

* `Chain.group_append`: the tree of a chain by the operator that is applied last.
* `grouped_iff`: a chain has one tree, the one that is built.
-/

namespace WebRecipe.Condition

namespace ChainOp

/-- How an operator is written. -/
def token : ChainOp → String
  | binary .add => "+"
  | binary .sub => "-"
  | binary .mul => "*"
  | binary .div => "/"
  | binary .rem => "%"
  | binary .pow => "**"
  | binary .eq => "=="
  | binary .notEq => "!="
  | binary .strictEq => "==="
  | binary .strictNotEq => "!=="
  | binary .lt => "<"
  | binary .ltEq => "<="
  | binary .gt => ">"
  | binary .gtEq => ">="
  | binary .isIn => "in"
  | binary .instanceOf => "instanceof"
  | logical .and => "&&"
  | logical .or => "||"
  | logical .nullish => "??"

/-- The operators by strength, the strongest ones first. -/
def strengths : List (List String) :=
  [["**"], ["*", "/", "%"], ["+", "-"], ["<", "<=", ">", ">=", "in", "instanceof"],
    ["==", "!=", "===", "!=="], ["&&"], ["||", "??"]]

/-- How many strengths are stronger than that of an operator. -/
def level (op : ChainOp) : Nat :=
  strengths.findIdx (·.contains op.token)

/-- Whether an operator groups to the right. -/
def groupsRight (op : ChainOp) : Bool :=
  op.token == "**"

theorem level_eq_looseness (op : ChainOp) : op.level = op.looseness := by
  cases op with
  | binary op => cases op <;> decide
  | logical op => cases op <;> decide

theorem groupsRight_iff {op : ChainOp} : op.groupsRight = true ↔ op.looseness = 0 := by
  cases op with
  | binary op => cases op <;> decide
  | logical op => cases op <;> decide

theorem looseness_le (op : ChainOp) : op.looseness ≤ 6 := by
  cases op with
  | binary op => cases op <;> decide
  | logical op => cases op <;> decide

theorem eq_pow_iff {op : ChainOp} : op = .binary .pow ↔ op.looseness = 0 := by
  cases op with
  | binary op => cases op <;> decide
  | logical op => cases op <;> decide

/-- An operator between others is applied last: none is looser, and of those that are as loose it is
the last one, or the first one if they group to the right. -/
def IsLast (before : List ChainOp) (op : ChainOp) (after : List ChainOp) : Prop :=
  (∀ o ∈ before, o.level < op.level ∨ o.level = op.level ∧ op.groupsRight = false) ∧
    ∀ o ∈ after, o.level < op.level ∨ o.level = op.level ∧ op.groupsRight = true

/-- Among operators one is applied last. -/
theorem exists_isLast : ∀ ops : List ChainOp, ops ≠ [] →
    ∃ before op after, ops = before ++ op :: after ∧ IsLast before op after := by
  intro ops hops
  induction ops with
  | nil => exact absurd rfl hops
  | cons op ops ih =>
    by_cases hnil : ops = []
    case pos => exact ⟨[], op, ops, rfl, by simp [IsLast, hnil]⟩
    case neg =>
    obtain ⟨before, last, after, rfl, hbefore, hafter⟩ := ih hnil
    by_cases hfirst : last.level < op.level ∨ last.level = op.level ∧ op.groupsRight = true
    case pos =>
      -- the first operator is applied last: it is looser, or as loose and groups to the right
      refine ⟨[], op, before ++ last :: after, rfl, by simp, fun o ho ↦ ?_⟩
      have hle : o.level ≤ last.level := by
        rcases List.mem_append.1 ho with ho | ho
        · rcases hbefore o ho with h | h <;> omega
        · rcases List.mem_cons.1 ho with rfl | ho
          · exact Nat.le_refl _
          · rcases hafter o ho with h | h <;> omega
      rcases hfirst with h | ⟨h, hright⟩
      · exact .inl (Nat.lt_of_le_of_lt hle h)
      · exact (Nat.lt_or_eq_of_le (h ▸ hle)).imp_right (⟨·, hright⟩)
    case neg =>
      refine ⟨op :: before, last, after, rfl, fun o ho ↦ ?_, hafter⟩
      rcases List.mem_cons.1 ho with rfl | ho
      · rw [not_or, not_and, Nat.not_lt] at hfirst
        rcases Nat.lt_or_eq_of_le hfirst.1 with h | h
        · exact .inl h
        · refine .inr ⟨h, ?_⟩
          have hright := hfirst.2 h.symm
          rw [groupsRight_iff, ← level_eq_looseness, h, level_eq_looseness, ← groupsRight_iff]
            at hright
          exact Bool.eq_false_iff.2 hright
      · exact hbefore o ho

end ChainOp

/-- A tree of a chain: the operator that is applied last, with the trees of what stands before it
and after it. -/
inductive Grouped : Expr → List (ChainOp × Expr) → Expr → Prop where
  | operand (a : Expr) : Grouped a [] a
  | split {a b l r : Expr} {op : ChainOp} {before after : List (ChainOp × Expr)}
      (hlast : ChainOp.IsLast (before.map Prod.fst) op (after.map Prod.fst))
      (hleft : Grouped a before l) (hright : Grouped b after r) :
      Grouped a (before ++ (op, b) :: after) (op.apply l r)

namespace Chain

/-! ### Joining operands strength by strength -/

/-- The chain with the operands around the operators of the first strengths joined. -/
def joined : Nat → Chain → Chain
  | 0, c => c.joinPowers
  | k + 1, c => (joined k c).joinLevel (k + 1)

theorem group_eq_joined (c : Chain) : c.group = (c.joined 6).first :=
  rfl

variable {op : ChainOp} {a b : Expr} {before after : List (ChainOp × Expr)} {k : Nat}

/-- An operator that is not joined keeps what stands before it from what stands after it. -/
private theorem mergeRight_append {pow : ChainOp} (hop : op ≠ pow) :
    mergeRight pow a (before ++ (op, b) :: after) =
      ⟨(mergeRight pow a before).first, (mergeRight pow a before).rest ++
        (op, (mergeRight pow b after).first) :: (mergeRight pow b after).rest⟩ := by
  induction before generalizing a with
  | nil => simp [mergeRight, hop]
  | cons p before ih =>
    obtain ⟨o, c⟩ := p
    rw [List.cons_append, mergeRight, mergeRight, ih]
    by_cases ho : o = pow <;> simp [ho]

private theorem mergeLeft_append (hop : op.looseness ≠ k) :
    mergeLeft k a (before ++ (op, b) :: after) =
      ⟨(mergeLeft k a before).first, (mergeLeft k a before).rest ++
        (op, (mergeLeft k b after).first) :: (mergeLeft k b after).rest⟩ := by
  induction before generalizing a with
  | nil => simp [mergeLeft, hop]
  | cons p before ih =>
    obtain ⟨o, c⟩ := p
    rw [List.cons_append, mergeLeft, mergeLeft]
    by_cases ho : o.looseness = k <;> simp [ho, ih]

/-- Operators of one strength are joined from the left. -/
private theorem mergeLeft_concat (hbefore : ∀ p ∈ before, p.1.looseness = k)
    (hop : op.looseness = k) :
    mergeLeft k a (before ++ [(op, b)]) = ⟨op.apply (mergeLeft k a before).first b, []⟩ := by
  induction before generalizing a with
  | nil => simp [mergeLeft, hop]
  | cons p before ih =>
    obtain ⟨o, c⟩ := p
    obtain ⟨ho, hbefore⟩ := List.forall_mem_cons.1 hbefore
    rw [List.cons_append, mergeLeft, mergeLeft, if_pos ho, if_pos ho, ih hbefore]

private theorem mem_mergeRight {pow : ChainOp} {p : ChainOp × Expr}
    (h : p ∈ (mergeRight pow a before).rest) : p.1 ∈ before.map Prod.fst ∧ p.1 ≠ pow := by
  induction before generalizing a with
  | nil => cases h
  | cons q before ih =>
    obtain ⟨o, c⟩ := q
    rw [mergeRight] at h
    split at h
    case isTrue => exact (ih h).imp_left (List.mem_cons_of_mem o)
    case isFalse ho =>
      rcases List.mem_cons.1 h with rfl | h
      · exact ⟨List.mem_cons_self, ho⟩
      · exact (ih h).imp_left (List.mem_cons_of_mem o)

private theorem mem_mergeLeft {p : ChainOp × Expr} (h : p ∈ (mergeLeft k a before).rest) :
    p.1 ∈ before.map Prod.fst ∧ p.1.looseness ≠ k := by
  induction before generalizing a with
  | nil => cases h
  | cons q before ih =>
    obtain ⟨o, c⟩ := q
    rw [mergeLeft] at h
    split at h
    case isTrue => exact (ih h).imp_left (List.mem_cons_of_mem o)
    case isFalse ho =>
      rcases List.mem_cons.1 h with rfl | h
      · exact ⟨List.mem_cons_self, ho⟩
      · exact (ih h).imp_left (List.mem_cons_of_mem o)

/-- The operators that are left are looser than the strengths that were joined. -/
theorem mem_joined {c : Chain} {p : ChainOp × Expr} (h : p ∈ (c.joined k).rest) :
    p.1 ∈ c.rest.map Prod.fst ∧ k < p.1.looseness := by
  induction k generalizing p with
  | zero =>
    obtain ⟨hmem, hne⟩ := mem_mergeRight h
    exact ⟨hmem, Nat.pos_of_ne_zero fun h0 ↦ hne (ChainOp.eq_pow_iff.2 h0)⟩
  | succ k ih =>
    obtain ⟨hmem, hne⟩ := mem_mergeLeft h
    obtain ⟨q, hq, hqp⟩ := List.mem_map.1 hmem
    have hq := ih hq
    rw [hqp] at hq
    exact ⟨hq.1, Nat.lt_of_le_of_ne hq.2 (Ne.symm hne)⟩

theorem rest_joined_eq_nil {c : Chain} (h : ∀ p ∈ c.rest, p.1.looseness ≤ k) :
    (c.joined k).rest = [] := by
  rw [List.eq_nil_iff_forall_not_mem]
  intro p hp
  obtain ⟨hmem, hlt⟩ := mem_joined hp
  obtain ⟨q, hq, hqp⟩ := List.mem_map.1 hmem
  exact absurd (hqp ▸ h q hq) (Nat.not_le.2 hlt)

/-- When nothing is left to join, what was joined is the tree. -/
theorem first_joined_eq_group {c : Chain} (hk : k ≤ 6) (h : (c.joined k).rest = []) :
    (c.joined k).first = c.group := by
  have hlater (j : Nat) : c.joined (k + j) = c.joined k := by
    induction j with
    | zero => rfl
    | succ j ih =>
      rw [← Nat.add_assoc, joined, ih, joinLevel, h, mergeLeft]
      exact congrArg (Chain.mk _) h.symm
  rw [group_eq_joined, ← Nat.add_sub_cancel' hk, hlater]

/-- An operator that is not joined yet keeps what stands before it from what stands after it. -/
theorem joined_append (hop : k < op.looseness) :
    joined k ⟨a, before ++ (op, b) :: after⟩ =
      ⟨(joined k ⟨a, before⟩).first, (joined k ⟨a, before⟩).rest ++
        (op, (joined k ⟨b, after⟩).first) :: (joined k ⟨b, after⟩).rest⟩ := by
  induction k with
  | zero => exact mergeRight_append fun h ↦ Nat.ne_of_gt hop (ChainOp.eq_pow_iff.1 h)
  | succ k ih =>
    rw [joined, ih (Nat.lt_of_succ_lt hop)]
    exact mergeLeft_append (Nat.ne_of_gt hop)

/-- The tree of a chain is that of the operator that is applied last. -/
theorem group_append (h : ChainOp.IsLast (before.map Prod.fst) op (after.map Prod.fst)) :
    group ⟨a, before ++ (op, b) :: after⟩ = op.apply (group ⟨a, before⟩) (group ⟨b, after⟩) := by
  obtain ⟨hbefore, hafter⟩ := h
  simp only [ChainOp.level_eq_looseness] at hbefore hafter
  have hbefore' : ∀ p ∈ before, p.1.looseness ≤ op.looseness := fun p hp ↦ by
    rcases hbefore p.1 (List.mem_map_of_mem hp) with h | h <;> omega
  have hafter' : ∀ p ∈ after, p.1.looseness ≤ op.looseness := fun p hp ↦ by
    rcases hafter p.1 (List.mem_map_of_mem hp) with h | h <;> omega
  suffices hjoined : joined op.looseness ⟨a, before ++ (op, b) :: after⟩ =
      ⟨op.apply (group ⟨a, before⟩) (group ⟨b, after⟩), []⟩ by
    rw [← first_joined_eq_group op.looseness_le (congrArg rest hjoined), hjoined]
  cases hk : op.looseness with
  | zero =>
    -- nothing stands before the first `**`
    have hnil : before = [] := by
      rw [List.eq_nil_iff_forall_not_mem]
      intro p hp
      rw [hk, ChainOp.groupsRight_iff.2 hk] at hbefore
      rcases hbefore p.1 (List.mem_map_of_mem hp) with h | h
      · exact absurd h (Nat.not_lt_zero _)
      · exact Bool.noConfusion h.2
    rw [hk] at hafter'
    have hrest : (joined 0 ⟨b, after⟩).rest = [] := rest_joined_eq_nil hafter'
    rw [← first_joined_eq_group (Nat.zero_le 6) hrest, hnil, ChainOp.eq_pow_iff.2 hk]
    rw [List.nil_append, joined, joinPowers, mergeRight, if_pos rfl]
    exact congrArg (Chain.mk _) hrest
  | succ k =>
    have hleft : op.groupsRight = false := by
      rw [Bool.eq_false_iff, ne_eq, ChainOp.groupsRight_iff, hk]
      exact Nat.succ_ne_zero k
    -- everything after the operator is joined before it is, since it is stronger
    have hafter : (joined k ⟨b, after⟩).rest = [] := rest_joined_eq_nil fun p hp ↦ by
      rcases hafter p.1 (List.mem_map_of_mem hp) with h | h
      · omega
      · exact Bool.noConfusion (hleft.symm.trans h.2)
    have hbefore : (joined (k + 1) ⟨a, before⟩).rest = [] :=
      rest_joined_eq_nil fun p hp ↦ hk ▸ hbefore' p hp
    have hk6 : k + 1 ≤ 6 := hk ▸ op.looseness_le
    rw [joined, joined_append (by omega), hafter, joinLevel, mergeLeft_concat ?_ hk,
      first_joined_eq_group (Nat.le_of_succ_le hk6) hafter,
      ← first_joined_eq_group hk6 hbefore]
    · rfl
    · intro p hp
      obtain ⟨hmem, hlt⟩ := mem_joined hp
      obtain ⟨q, hq, hqp⟩ := List.mem_map.1 hmem
      have hle := hbefore' q hq
      rw [hqp, hk] at hle
      omega

end Chain

/-- A chain has one tree. -/
theorem grouped_iff {a x : Expr} {rest : List (ChainOp × Expr)} :
    Grouped a rest x ↔ x = Chain.group ⟨a, rest⟩ := by
  constructor
  · intro h
    induction h with
    | operand a => rfl
    | split hlast _ _ hleft hright => rw [Chain.group_append hlast, hleft, hright]
  · rintro rfl
    induction hn : rest.length using Nat.strongRecOn generalizing a rest with
    | ind n ih =>
    by_cases hnil : rest = []
    case pos =>
      subst hnil
      exact .operand a
    case neg =>
      obtain ⟨before, op, after, hops, hlast⟩ :=
        ChainOp.exists_isLast (rest.map Prod.fst) (by simpa using hnil)
      obtain ⟨before, tail, rfl, rfl, htail⟩ := List.map_eq_append_iff.1 hops
      obtain ⟨⟨op, b⟩, after, rfl, rfl, rfl⟩ := List.map_eq_cons_iff.1 htail
      rw [Chain.group_append hlast]
      rw [List.length_append, List.length_cons] at hn
      exact .split hlast (ih before.length (by omega) rfl) (ih after.length (by omega) rfl)

end WebRecipe.Condition
