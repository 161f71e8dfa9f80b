import WebRecipe.Condition.Eval
import WebRecipe.Proofs.Condition.Comparison

/-!
# Sorting an array

Items are sorted by a key: the code points of their text, and above all texts a key for `undefined`.
Keys are linearly ordered, and so the comparison that sorts items is a total preorder, in which two
items are equivalent when they have the same text, or are both `undefined`. The sort is stable: it
keeps the items of each key in their order.

## Main definitions

* `codePoints`: the code points of a text.
* `ArrayMethod.sortKey`: what an item is sorted by.

## Main results

* `ArrayMethod.sortsBefore_iff`: items are compared by their keys.
* `ArrayMethod.filter_sort`: the items of a key stay as they were.
* `ArrayMethod.sort_sorts`: what sorting an array gives.
-/

namespace WebRecipe.Condition

/-- The code points of a text. -/
def codePoints (s : String) : List Nat :=
  s.toList.map Char.toNat

theorem codePoints_strictMono : StrictMono codePoints := fun _ _ h ↦
  List.map_lt (fun _ _ hlt ↦ hlt) (String.lt_iff_toList_lt.1 h)

/-- Texts are compared by their code points. -/
theorem compareTexts_ne_gt_iff (s t : String) :
    (Value.compareTexts s t != .gt) = true ↔ codePoints s ≤ codePoints t := by
  rw [codePoints_strictMono.le_iff_le, Value.compareTexts]
  rcases lt_trichotomy s t with h | rfl | h
  · rw [if_pos h]
    exact iff_of_true rfl h.le
  · rw [if_neg (lt_irrefl s), if_pos rfl]
    exact iff_of_true rfl le_rfl
  · rw [if_neg (lt_asymm h), if_neg h.ne']
    exact iff_of_false Bool.false_ne_true (not_le_of_gt h)

namespace ArrayMethod

/-- What an item is sorted by: the code points of its text, and nothing comes after `undefined`. -/
def sortKey : Value → WithTop (List Nat)
  | .undefined => ⊤
  | v => (codePoints v.toText : List Nat)

theorem sortKey_of_ne {v : Value} (h : v ≠ .undefined) :
    sortKey v = (codePoints v.toText : List Nat) := by
  cases v with
  | undefined => exact absurd rfl h
  | _ => rfl

theorem sortKey_eq_top_iff {v : Value} : sortKey v = ⊤ ↔ v = .undefined := by
  refine ⟨fun h ↦ ?_, fun h ↦ h ▸ rfl⟩
  by_contra hne
  rw [sortKey_of_ne hne] at h
  exact WithTop.coe_ne_top h

/-- Items are compared by their keys. -/
theorem sortsBefore_iff (v w : Value) : sortsBefore v w = true ↔ sortKey v ≤ sortKey w := by
  fun_cases sortsBefore v w with
  | case1 => exact iff_of_true rfl le_rfl
  | case2 w hw =>
    refine iff_of_false Bool.false_ne_true fun h ↦ hw ?_
    exact sortKey_eq_top_iff.1 (top_le_iff.1 h)
  | case3 v hv => exact iff_of_true rfl le_top
  | case4 v w _ hv hw =>
    rw [sortKey_of_ne hv, sortKey_of_ne hw, WithTop.coe_le_coe]
    exact compareTexts_ne_gt_iff v.toText w.toText

theorem sortsBefore_total (v w : Value) : (sortsBefore v w || sortsBefore w v) = true := by
  rw [Bool.or_eq_true, sortsBefore_iff, sortsBefore_iff]
  exact le_total (sortKey v) (sortKey w)

theorem sortsBefore_trans (u v w : Value) (huv : sortsBefore u v = true)
    (hvw : sortsBefore v w = true) : sortsBefore u w = true := by
  rw [sortsBefore_iff] at huv hvw ⊢
  exact huv.trans hvw

variable {items : List Value}

/-- The items of a sorted array are in the order of their keys. -/
theorem pairwise_sort (items : List Value) :
    (sort items).Pairwise fun v w ↦ sortKey v ≤ sortKey w :=
  (List.pairwise_mergeSort sortsBefore_trans sortsBefore_total items).imp (sortsBefore_iff _ _).1

/-- An array whose items are in the order of their keys is sorted. -/
theorem sort_of_pairwise (h : items.Pairwise fun v w ↦ sortKey v ≤ sortKey w) :
    sort items = items :=
  List.mergeSort_of_pairwise (h.imp (sortsBefore_iff _ _).2)

/-- The items of a key stay as they were. -/
theorem filter_sort (items : List Value) (k : WithTop (List Nat)) :
    (sort items).filter (fun v ↦ sortKey v = k) = items.filter (fun v ↦ sortKey v = k) := by
  have hordered : (items.filter fun v ↦ sortKey v = k).Pairwise (sortsBefore · ·) := by
    refine List.pairwise_of_forall_mem_list fun v hv w hw ↦ (sortsBefore_iff v w).2 ?_
    have hv' : sortKey v = k := of_decide_eq_true (List.mem_filter.1 hv).2
    have hw' : sortKey w = k := of_decide_eq_true (List.mem_filter.1 hw).2
    exact (hv'.trans hw'.symm).le
  have hsublist := (List.sublist_mergeSort sortsBefore_trans sortsBefore_total hordered
    List.filter_sublist).filter fun v ↦ sortKey v = k
  rw [List.filter_filter, List.filter_congr fun v _ ↦ Bool.and_self _] at hsublist
  exact (hsublist.eq_of_length ((List.mergeSort_perm items _).filter _).length_eq.symm).symm

/-- Where items are in the order of their keys, each `undefined` comes after all other items. -/
theorem exists_append_replicate (h : items.Pairwise fun v w ↦ sortKey v ≤ sortKey w) :
    ∃ (others : List Value) (n : Nat), items = others ++ List.replicate n .undefined ∧
      ∀ v ∈ others, v ≠ .undefined := by
  induction items with
  | nil => exact ⟨[], 0, rfl, nofun⟩
  | cons v rest ih =>
    obtain ⟨hv, hrest⟩ := List.pairwise_cons.1 h
    by_cases hundefined : v = .undefined
    · subst hundefined
      refine ⟨[], rest.length + 1, List.eq_replicate_iff.2 ⟨rfl, ?_⟩, nofun⟩
      refine List.forall_mem_cons.2 ⟨rfl, fun w hw ↦ ?_⟩
      exact sortKey_eq_top_iff.1 (top_le_iff.1 (hv w hw))
    · obtain ⟨others, n, rfl, hothers⟩ := ih hrest
      exact ⟨v :: others, n, rfl, List.forall_mem_cons.2 ⟨hundefined, hothers⟩⟩

/-- Whether an item other than `undefined` has a text. -/
def hasText (s : String) : Value → Bool
  | .undefined => false
  | v => v.toText == s

/-- The items that have a text are those of its key. -/
theorem hasText_eq (s : String) (v : Value) :
    hasText s v = decide (sortKey v = (codePoints s : List Nat)) := by
  fun_cases hasText s v with
  | case1 => exact (decide_eq_false WithTop.top_ne_coe).symm
  | case2 v hv =>
    rw [Bool.beq_eq_decide_eq, decide_eq_decide, sortKey_of_ne hv, WithTop.coe_inj]
    exact codePoints_strictMono.injective.eq_iff.symm

/-- **Sorting sorts.** The result of sorting an array is a permutation of the array in which each
`undefined` comes after all other items, and the others are in the order of the code points of their
texts. Of these, the ones that have the same text stay in the order that they had. Sorting the result
again changes nothing. Of any two values one may stand before the other, and the comparison is
transitive. -/
theorem sort_sorts (items : List Value) :
    (∃ sorted, callMethod (.array items) "sort" [] = .ok (.array sorted) ∧ sorted.Perm items ∧
      (∃ (others : List Value) (n : Nat), sorted = others ++ List.replicate n .undefined ∧
        (∀ v ∈ others, v ≠ .undefined) ∧
        others.Pairwise fun v w ↦ codePoints v.toText ≤ codePoints w.toText) ∧
      (∀ s, sorted.filter (hasText s) = items.filter (hasText s)) ∧
      callMethod (.array sorted) "sort" [] = .ok (.array sorted)) ∧
    (∀ v w, sortsBefore v w = true ∨ sortsBefore w v = true) ∧
    ∀ u v w, sortsBefore u v = true → sortsBefore v w = true → sortsBefore u w = true := by
  have hsort (items : List Value) :
      callMethod (.array items) "sort" [] = .ok (.array (sort items)) := rfl
  refine ⟨⟨sort items, hsort items, List.mergeSort_perm items _, ?_, fun s ↦ ?_, ?_⟩,
    fun v w ↦ Bool.or_eq_true_iff.1 (sortsBefore_total v w), sortsBefore_trans⟩
  · obtain ⟨others, n, hsplit, hothers⟩ := exists_append_replicate (pairwise_sort items)
    refine ⟨others, n, hsplit, hothers, ?_⟩
    have hordered := (List.pairwise_append.1 (hsplit ▸ pairwise_sort items)).1
    refine hordered.imp_of_mem fun {v w} hv hw hle ↦ ?_
    rwa [sortKey_of_ne (hothers v hv), sortKey_of_ne (hothers w hw), WithTop.coe_le_coe] at hle
  · simp only [funext (hasText_eq s), filter_sort]
  · rw [hsort, sort_of_pairwise (pairwise_sort items)]

end ArrayMethod
end WebRecipe.Condition
