import Mathlib.Data.List.Infix
import Mathlib.Order.Bounds.Basic
import WebRecipe.Text.Search

/-!
# Occurrences in a text

The searches from the left and from the right give the least and the greatest position of what they
look for, if there is one. A text that is split is the pieces with the separator between them.

## Main definitions

* `OccursAt`: a text stands in another one at a position.
* `positions`: the positions of a text in another one that itself begins at a position.
* `Finds`: what a search for one of some positions gives.

## Main results

* `findFrom_finds`, `findLastFrom_finds`: the least and the greatest position.
* `intercalate_splitOn`: a text is its pieces with the separator between them.
-/

namespace WebRecipe.Text

variable {needle text rest : List Char} {c : Char} {start i j : Nat}

/-! ### Positions -/

/-- A text stands in another one at a position. -/
def OccursAt (needle text : List Char) (i : Nat) : Prop :=
  ∃ before after, text = before ++ needle ++ after ∧ before.length = i

theorem occursAt_zero_iff : OccursAt needle text 0 ↔ needle <+: text := by
  constructor
  · rintro ⟨before, after, rfl, hbefore⟩
    rw [List.length_eq_zero_iff.1 hbefore, List.nil_append]
    exact List.prefix_append needle after
  · rintro ⟨after, rfl⟩
    exact ⟨[], after, rfl, rfl⟩

theorem occursAt_cons_succ_iff : OccursAt needle (c :: rest) (i + 1) ↔ OccursAt needle rest i := by
  constructor
  · rintro ⟨before, after, htext, hbefore⟩
    cases before with
    | nil => cases hbefore
    | cons d before => exact ⟨before, after, (List.cons.inj htext).2, Nat.succ.inj hbefore⟩
  · rintro ⟨before, after, rfl, rfl⟩
    exact ⟨c :: before, after, rfl, rfl⟩

/-- The empty text stands at every position. -/
theorem occursAt_nil (h : i ≤ text.length) : OccursAt [] text i := by
  refine ⟨text.take i, text.drop i, ?_, List.length_take_of_le h⟩
  rw [List.append_nil, List.take_append_drop]

theorem OccursAt.add_length_le (h : OccursAt needle text i) : i + needle.length ≤ text.length := by
  obtain ⟨before, after, rfl, rfl⟩ := h
  simp only [List.length_append]
  omega

theorem occursAt_drop_iff (h : start ≤ text.length) :
    OccursAt needle (text.drop start) i ↔ OccursAt needle text (start + i) := by
  induction start generalizing text with
  | zero => rw [List.drop_zero, Nat.zero_add]
  | succ start ih =>
    cases text with
    | nil => cases h
    | cons c rest =>
      rw [List.drop_succ_cons, ih (Nat.le_of_succ_le_succ h), Nat.add_right_comm,
        occursAt_cons_succ_iff]

/-- A text stands where another one without its first characters begins with it. -/
theorem OccursAt.prefix_drop (h : OccursAt needle text i) : needle <+: text.drop i := by
  have hi : i ≤ text.length := (Nat.le_add_right _ _).trans h.add_length_le
  exact occursAt_zero_iff.1 ((occursAt_drop_iff hi).2 h)

/-- A text stands in another one somewhere. -/
theorem nonempty_occursAt_iff : {i | OccursAt needle text i}.Nonempty ↔ needle <:+: text := by
  constructor
  · rintro ⟨i, before, after, rfl, -⟩
    exact ⟨before, after, rfl⟩
  · rintro ⟨before, after, rfl⟩
    exact ⟨before.length, before, after, rfl, rfl⟩

/-- The positions of a text in another one that itself begins at a position. -/
def positions (needle : List Char) (start : Nat) (text : List Char) : Set Nat :=
  {i | ∃ j, i = start + j ∧ OccursAt needle text j}

theorem positions_nil : positions needle start [] = {i | i = start ∧ needle = []} := by
  ext i
  constructor
  · rintro ⟨j, rfl, h⟩
    have hlength : j + needle.length ≤ 0 := h.add_length_le
    exact ⟨by omega, List.length_eq_zero_iff.1 (by omega)⟩
  · rintro ⟨rfl, rfl⟩
    exact ⟨0, rfl, [], [], rfl, rfl⟩

theorem positions_cons : positions needle start (c :: rest) =
    {i | i = start ∧ needle <+: c :: rest} ∪ positions needle (start + 1) rest := by
  ext i
  constructor
  · rintro ⟨j, rfl, h⟩
    cases j with
    | zero => exact .inl ⟨rfl, occursAt_zero_iff.1 h⟩
    | succ j => exact .inr ⟨j, by omega, occursAt_cons_succ_iff.1 h⟩
  · rintro (⟨rfl, h⟩ | ⟨j, rfl, h⟩)
    · exact ⟨0, rfl, occursAt_zero_iff.2 h⟩
    · exact ⟨j + 1, by omega, occursAt_cons_succ_iff.2 h⟩

theorem le_of_mem_positions (h : i ∈ positions needle start text) : start ≤ i := by
  obtain ⟨j, rfl, -⟩ := h
  exact Nat.le_add_right start j

theorem positions_zero : positions needle 0 text = {i | OccursAt needle text i} := by
  ext i
  simp [positions]

/-- The positions in the rest of a text are those in the text from there on. -/
theorem positions_drop (h : start ≤ text.length) :
    positions needle start (text.drop start) = {i | start ≤ i ∧ OccursAt needle text i} := by
  ext i
  constructor
  · rintro ⟨j, rfl, hj⟩
    exact ⟨Nat.le_add_right start j, (occursAt_drop_iff h).1 hj⟩
  · rintro ⟨hstart, hi⟩
    obtain ⟨j, rfl⟩ := Nat.exists_eq_add_of_le hstart
    exact ⟨j, rfl, (occursAt_drop_iff h).2 hi⟩

/-! ### Searches -/

/-- What a search for one of some positions gives: the one that is picked, if there is one. -/
inductive Finds (pick : Set Nat → Nat → Prop) (among : Set Nat) : Option Nat → Prop
  | found {i : Nat} (picked : pick among i) : Finds pick among (some i)
  | missing (empty : among = ∅) : Finds pick among none

theorem Finds.isSome_iff {pick : Set Nat → Nat → Prop} {among : Set Nat} {o : Option Nat}
    (h : Finds pick among o) (hpick : ∀ i, pick among i → i ∈ among) :
    o.isSome = true ↔ among.Nonempty := by
  cases h with
  | found picked => exact iff_of_true rfl ⟨_, hpick _ picked⟩
  | missing empty => exact iff_of_false Bool.false_ne_true (Set.not_nonempty_iff_eq_empty.2 empty)

/-- A search that can only find one position. -/
theorem finds_here {pick : Set Nat → Nat → Prop} {p : Prop} [Decidable p]
    (h : pick {start} start) :
    Finds pick {i | i = start ∧ p} (if p then some start else none) := by
  split
  case isTrue hp =>
    have hhere : {i | i = start ∧ p} = {start} := Set.ext fun i ↦ and_iff_left hp
    exact .found (hhere ▸ h)
  case isFalse hp => exact .missing (Set.eq_empty_of_forall_notMem fun i hi ↦ hp hi.2)

/-- The search from the left gives the least position. -/
theorem findFrom_finds (needle text : List Char) (start : Nat) :
    Finds IsLeast (positions needle start text) (findFrom needle start text) := by
  induction text generalizing start with
  | nil =>
    simp only [findFrom, positions_nil, List.isEmpty_iff]
    exact finds_here isLeast_singleton
  | cons c rest ih =>
    simp only [findFrom, positions_cons, List.isPrefixOf_iff_prefix]
    split
    case isTrue h =>
      refine .found ⟨.inl ⟨rfl, h⟩, ?_⟩
      rintro i (hi | hi)
      · exact hi.1.ge
      · exact Nat.le_of_succ_le (le_of_mem_positions hi)
    case isFalse h =>
      have hnone : {i | i = start ∧ needle <+: c :: rest} = ∅ :=
        Set.eq_empty_of_forall_notMem fun i hi ↦ h hi.2
      rw [hnone, Set.empty_union]
      exact ih (start + 1)

/-- The search from the right gives the greatest position. -/
theorem findLastFrom_finds (needle text : List Char) (start : Nat) :
    Finds IsGreatest (positions needle start text) (findLastFrom needle start text) := by
  induction text generalizing start with
  | nil =>
    simp only [findLastFrom, positions_nil, List.isEmpty_iff]
    exact finds_here isGreatest_singleton
  | cons c rest ih =>
    simp only [findLastFrom, positions_cons, List.isPrefixOf_iff_prefix]
    cases hrest : findLastFrom needle (start + 1) rest with
    | some i =>
      obtain ⟨hmem, hupper⟩ : IsGreatest (positions needle (start + 1) rest) i := by
        cases hrest ▸ ih (start + 1) with
        | found h => exact h
      refine .found ⟨.inr hmem, ?_⟩
      rintro j (hj | hj)
      · exact hj.1.le.trans (Nat.le_of_succ_le (le_of_mem_positions hmem))
      · exact hupper hj
    | none =>
      have hempty : positions needle (start + 1) rest = ∅ := by
        cases hrest ▸ ih (start + 1) with
        | missing h => exact h
      rw [hempty, Set.union_empty]
      exact finds_here isGreatest_singleton

/-- The first position at or after another one. -/
theorem findFrom_drop_finds (needle : List Char) (h : start ≤ text.length) :
    Finds IsLeast {i | start ≤ i ∧ OccursAt needle text i}
      (findFrom needle start (text.drop start)) :=
  positions_drop h ▸ findFrom_finds needle (text.drop start) start

/-- The empty text is found where the search begins. -/
theorem isLeast_occursAt_nil (h : start ≤ text.length) :
    IsLeast {i | start ≤ i ∧ OccursAt [] text i} start :=
  ⟨⟨Nat.le_refl start, occursAt_nil h⟩, fun _ hi ↦ hi.1⟩

theorem find?_finds (needle text : List Char) :
    Finds IsLeast {i | OccursAt needle text i} (find? needle text) :=
  positions_zero ▸ findFrom_finds needle text 0

theorem findLast?_finds (needle text : List Char) :
    Finds IsGreatest {i | OccursAt needle text i} (findLast? needle text) :=
  positions_zero ▸ findLastFrom_finds needle text 0

/-! ### Splitting -/

theorem splitGo_ne_nil (needle : List Char) (skip : Nat) (piece text : List Char) :
    splitGo needle skip piece text ≠ [] := by
  fun_induction splitGo needle skip piece text with
  | case3 _ _ _ _ ih => exact ih
  | case5 _ _ _ _ ih => exact ih
  | _ => exact List.cons_ne_nil _ _

theorem length_splitGo_le (needle : List Char) (skip : Nat) (piece text : List Char) :
    (splitGo needle skip piece text).length ≤ text.length + 1 := by
  fun_induction splitGo needle skip piece text <;> simp_all <;> omega

/-- The pieces with the separator between them are the text, from where it is not skipped. -/
theorem intercalate_splitGo (h : needle ≠ []) (skip : Nat) (piece text : List Char) :
    needle.intercalate (splitGo needle skip piece text) = piece.reverse ++ text.drop skip := by
  fun_induction splitGo needle skip piece text with
  | case1 piece => rw [List.intercalate_singleton, List.drop_zero, List.append_nil]
  | case2 piece c rest hprefix ih =>
    obtain ⟨after, hafter⟩ := List.isPrefixOf_iff_prefix.1 hprefix
    obtain ⟨d, tail, rfl⟩ := List.exists_cons_of_ne_nil h
    rw [List.cons_append] at hafter
    obtain ⟨rfl, rfl⟩ := List.cons.inj hafter
    have hskipped : (tail ++ after).drop ((d :: tail).length - 1) = after := List.drop_left
    rw [List.intercalate_cons_of_ne_nil (splitGo_ne_nil _ _ _ _), ih, hskipped, List.append_assoc]
    rfl
  | case3 piece c rest hprefix ih =>
    rw [ih, List.reverse_cons, List.append_assoc]
    rfl
  | case4 skip piece => rw [List.intercalate_singleton, List.drop_nil, List.append_nil]
  | case5 skip piece c rest ih => rw [ih, List.drop_succ_cons]

theorem length_splitOn_le (needle text : List Char) :
    (splitOn needle text).length ≤ text.length + 1 :=
  length_splitGo_le needle 0 [] text

theorem intercalate_splitOn (h : needle ≠ []) (text : List Char) :
    needle.intercalate (splitOn needle text) = text :=
  intercalate_splitGo h 0 [] text

/-- A text is its characters with nothing between them. -/
theorem intercalate_singletons (text : List Char) :
    [].intercalate (text.map fun c ↦ [c]) = text := by
  induction text with
  | nil => rfl
  | cons c rest ih =>
    cases rest with
    | nil => rfl
    | cons d rest => exact congrArg (c :: ·) ih

end WebRecipe.Text
