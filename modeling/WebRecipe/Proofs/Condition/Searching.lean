import WebRecipe.Proofs.Condition.Slicing
import WebRecipe.Proofs.Text.Occurrence

/-!
# Searching, replacing and splitting texts

The methods that search a text agree with one another: all of them are about the positions at which a
text occurs in another one. A position is handed on as a number, which holds it exactly as long as it
is below `2 ^ 53`. So where a method is given a position that another one has found, the text is taken
to be shorter than that, as every text is that fits into the memory of a machine.

## Main definitions

* `Locates`: the number that a search for one of some positions gives.
* `replaceAt`: what stands before and after an occurrence, with another text between them.

## Main results

* `search_methods_agree`: what the methods say about the positions, and about one another.
-/

namespace WebRecipe.Condition

open Text (OccursAt Finds)

/-- The number that a search for one of some positions gives: the position that is picked, or `-1`
where there is none. -/
inductive Locates (pick : Set Nat → Nat → Prop) (among : Set Nat) : Float → Prop
  | found {i : Nat} (picked : pick among i) : Locates pick among (Float.ofNat i)
  | missing (empty : among = ∅) : Locates pick among (-1)

theorem Locates.of_finds {pick : Set Nat → Nat → Prop} {among : Set Nat} {o : Option Nat}
    (h : Finds pick among o) : ∃ x, positionNumber o = .number x ∧ Locates pick among x := by
  cases h with
  | found picked => exact ⟨_, rfl, .found picked⟩
  | missing empty => exact ⟨_, rfl, .missing empty⟩

/-- Where there are positions, the number is not `-1`. -/
theorem Locates.eq_neg_one_iff {pick : Set Nat → Nat → Prop} {among : Set Nat} {x : Float}
    (h : Locates pick among x) (hpick : ∀ i, pick among i → i ∈ among) : x = -1 ↔ among = ∅ := by
  cases h with
  | found picked =>
    refine iff_of_false (Double.ofNat_ne_neg_one _) ?_
    exact (Set.nonempty_of_mem (hpick _ picked)).ne_empty
  | missing empty => exact iff_of_true rfl empty

theorem Locates.eq_of_isLeast {among : Set Nat} {x : Float} {i : Nat}
    (h : Locates IsLeast among x) (hi : IsLeast among i) : x = Float.ofNat i := by
  cases h with
  | found picked => rw [picked.unique hi]
  | missing empty => exact absurd (empty ▸ hi.1) (Set.notMem_empty i)

variable {s n : String} {i : Nat}

/-! ### Positions -/

/-- Where a search begins that is given a number. -/
theorem clampIndex_start (s : String) (v : Value) (f : Float) :
    clampIndex s.toList.length (Arguments.whole [v, .number f] 1 (.int 0)) =
      (Whole.ofFloat f).clamp s.length := by
  rw [Arguments.clampIndex_whole (j := 1) (x := f) rfl, String.length_toList]

theorem callMethod_indexOf (s n : String) (f : Float) :
    callMethod (.text s) "indexOf" [.text n, .number f] =
      .ok (positionNumber
        (TextMethod.indexFrom? s.toList n.toList ((Whole.ofFloat f).clamp s.length))) := by
  rw [← clampIndex_start s (.text n)]
  rfl

theorem callMethod_includes (s n : String) (f : Float) :
    callMethod (.text s) "includes" [.text n, .number f] =
      .ok (.bool
        (TextMethod.indexFrom? s.toList n.toList ((Whole.ofFloat f).clamp s.length)).isSome) := by
  rw [← clampIndex_start s (.text n)]
  rfl

theorem callMethod_indexOf_first (s n : String) :
    callMethod (.text s) "indexOf" [.text n] =
      .ok (positionNumber (Text.find? n.toList s.toList)) := by
  have hstart : clampIndex s.toList.length (Arguments.whole [.text n] 1 (.int 0)) = 0 :=
    Nat.zero_min _
  have hfirst : TextMethod.indexOf? s.toList [.text n] = Text.find? n.toList s.toList := by
    rw [TextMethod.indexOf?, hstart]
    rfl
  exact congrArg (Except.ok <| positionNumber ·) hfirst

theorem applyBinary_notEq_positionNumber (o : Option Nat) :
    applyBinary .notEq (positionNumber o) (.number (-1)) = .ok (.bool o.isSome) := by
  cases o with
  | none => exact congrArg (Except.ok <| Value.bool ·) (by decide +kernel)
  | some i => exact congrArg (Except.ok <| Value.bool ·) (Double.ofNat_bne_neg_one i)

/-- A position in a text that is not too long is handed on exactly. -/
theorem clamp_ofNat {m : Nat} (hi : i ≤ m) (hm : m < 2 ^ 53) :
    (Whole.ofFloat (Float.ofNat i)).clamp m = i := by
  rw [Double.ofFloat_ofNat (hi.trans_lt hm)]
  exact clampIndex_natCast hi

/-- A text begins at each position at which it occurs. -/
theorem startsWith_of_occursAt (h : OccursAt n.toList s.toList i) (hs : s.length < 2 ^ 53) :
    callMethod (.text s) "startsWith" [.text n, .number (Float.ofNat i)] = .ok (.bool true) := by
  have hi : i ≤ s.length := by
    rw [← String.length_toList]
    exact (Nat.le_add_right _ _).trans h.add_length_le
  have hbegins : TextMethod.startsWith s.toList [.text n, .number (Float.ofNat i)] = true := by
    rw [TextMethod.startsWith, clampIndex_start, clamp_ofNat hi hs]
    exact List.isPrefixOf_iff_prefix.2 h.prefix_drop
  exact congrArg (Except.ok <| Value.bool ·) hbegins

/-- The first position from a number on. -/
theorem exists_indexOf (s n : String) (f : Float) :
    ∃ x, callMethod (.text s) "indexOf" [.text n, .number f] = .ok (.number x) ∧
      Locates IsLeast
        {i | (Whole.ofFloat f).clamp s.length ≤ i ∧ OccursAt n.toList s.toList i} x := by
  have hstart : (Whole.ofFloat f).clamp s.length ≤ s.toList.length :=
    (clampIndex_le _ _).trans_eq String.length_toList.symm
  obtain ⟨x, hx, hlocates⟩ := Locates.of_finds (Text.findFrom_drop_finds n.toList hstart)
  exact ⟨x, (callMethod_indexOf s n f).trans (congrArg Except.ok hx), hlocates⟩

theorem exists_indexOf_first (s n : String) :
    ∃ x, callMethod (.text s) "indexOf" [.text n] = .ok (.number x) ∧
      Locates IsLeast {i | OccursAt n.toList s.toList i} x := by
  obtain ⟨x, hx, hlocates⟩ := Locates.of_finds (Text.find?_finds n.toList s.toList)
  exact ⟨x, (callMethod_indexOf_first s n).trans (congrArg Except.ok hx), hlocates⟩

theorem exists_lastIndexOf (s n : String) :
    ∃ y, callMethod (.text s) "lastIndexOf" [.text n] = .ok (.number y) ∧
      Locates IsGreatest {i | OccursAt n.toList s.toList i} y := by
  obtain ⟨y, hy, hlocates⟩ := Locates.of_finds (Text.findLast?_finds n.toList s.toList)
  exact ⟨y, congrArg Except.ok hy, hlocates⟩

/-! ### Replacing -/

/-- A position in a text that is not too long is handed on exactly, also to a slice. -/
theorem relativeIndex_ofNat {m : Nat} (hi : i ≤ m) (hm : m < 2 ^ 53) :
    relativeIndex m (Arguments.whole [.number (Float.ofNat i)] 0 (.int 0)) = i := by
  rw [Arguments.whole_of_number rfl, Double.ofFloat_ofNat (hi.trans_lt hm)]
  exact relativeIndex_natCast hi

theorem callMethod_slice_front (hi : i ≤ s.length) (hs : s.length < 2 ^ 53) :
    callMethod (.text s) "slice" [.number 0, .number (Float.ofNat i)] =
      .ok (textValue (s.toList.take i)) := by
  have hslice := TextMethod.slice_front s.toList (Float.ofNat i)
  rw [String.length_toList, relativeIndex_ofNat hi hs] at hslice
  exact congrArg (Except.ok <| textValue ·) hslice

theorem callMethod_slice_back (hi : i ≤ s.length) (hs : s.length < 2 ^ 53) :
    callMethod (.text s) "slice" [.number (Float.ofNat i)] =
      .ok (textValue (s.toList.drop i)) := by
  have hslice := TextMethod.slice_back s.toList (Float.ofNat i)
  rw [String.length_toList, relativeIndex_ofNat hi hs] at hslice
  exact congrArg (Except.ok <| textValue ·) hslice

/-- What stands before a position, a text, and what stands after as many characters as another one
has, put together in the language of conditions. -/
def replaceAt (s n r : String) (x : Float) : Except EvalError Value := do
  let front ← callMethod (.text s) "slice" [.number 0, .number x]
  let size ← getProperty (.text n) "length"
  let stop ← applyBinary .add (.number x) size
  let back ← callMethod (.text s) "slice" [stop]
  let start ← applyBinary .add front (.text r)
  applyBinary .add start back

theorem replaceAt_ofNat (r : String) (h : i + n.length ≤ s.length) (hs : s.length < 2 ^ 53) :
    replaceAt s n r (Float.ofNat i) =
      .ok (textValue (s.toList.take i ++ r.toList ++ s.toList.drop (i + n.length))) := by
  have hsize : getProperty (.text n) "length" = .ok (.number (Float.ofNat n.length)) := rfl
  have hstop : applyBinary .add (.number (Float.ofNat i)) (.number (Float.ofNat n.length)) =
      .ok (.number (Float.ofNat (i + n.length))) :=
    congrArg (Except.ok <| Value.number ·) (Double.ofNat_add (h.trans_lt hs))
  have hstart : applyBinary .add (textValue (s.toList.take i)) (.text r) =
      .ok (textValue (s.toList.take i ++ r.toList)) := by
    rw [← textValue_toList r, applyBinary_add_textValue]
  rw [← applyBinary_add_textValue]
  simp only [replaceAt, callMethod_slice_front ((Nat.le_add_right _ _).trans h) hs, hsize, hstop,
    callMethod_slice_back h hs, hstart, bind, Except.bind]

theorem callMethod_replace (s n r : String) :
    callMethod (.text s) "replace" [.text n, .text r] =
      .ok (textValue (Text.replaceFirst n.toList r.toList s.toList)) :=
  rfl

/-- Replacing by the number of the first position. -/
theorem exists_replace (r : String) {x : Float}
    (hx : callMethod (.text s) "indexOf" [.text n] = .ok (.number x)) :
    ∃ t, callMethod (.text s) "replace" [.text n, .text r] = .ok t ∧
      (x = -1 → t = .text s) ∧
      (x ≠ -1 → s.length < 2 ^ 53 → replaceAt s n r x = .ok t) := by
  rw [callMethod_indexOf_first] at hx
  have hfinds := Text.find?_finds n.toList s.toList
  refine ⟨_, callMethod_replace s n r, ?_⟩
  rw [Text.replaceFirst]
  cases hfind : Text.find? n.toList s.toList with
  | none =>
    rw [hfind] at hx
    cases hx
    exact ⟨fun _ ↦ textValue_toList s, fun h ↦ absurd rfl h⟩
  | some i =>
    rw [hfind] at hx hfinds
    cases hx
    cases hfinds with
    | found picked =>
      refine ⟨fun h ↦ absurd h (Double.ofNat_ne_neg_one i), fun _ hs ↦ ?_⟩
      have hstop : i + n.length ≤ s.length := by
        rw [← String.length_toList, ← String.length_toList]
        exact picked.1.add_length_le
      rw [replaceAt_ofNat r hstop hs]
      rfl

/-! ### Splitting -/

theorem itemTexts_map_textValue (pieces : List (List Char)) :
    Value.itemTexts (pieces.map textValue) = pieces.map String.ofList := by
  induction pieces with
  | nil => rfl
  | cons piece pieces ih => exact congrArg (String.ofList piece :: ·) ih

theorem split_of_nil (hn : n.toList = []) (text : List Char) :
    TextMethod.split text [.text n] = (text.map fun c ↦ [c]).take maxCount := by
  obtain rfl : n = "" := String.toList_eq_nil_iff.1 hn
  rfl

theorem split_of_ne_nil (hn : n.toList ≠ []) (text : List Char) :
    TextMethod.split text [.text n] = (Text.splitOn n.toList text).take maxCount := by
  have hgiven : Arguments.given? [.text n] 0 = some (.text n) := rfl
  have hlimit : Arguments.given? [.text n] 1 = none := rfl
  obtain ⟨c, rest, hc⟩ := List.exists_cons_of_ne_nil hn
  simp only [TextMethod.split, hgiven, hlimit, Value.toText, hc]

/-- Splitting a text gives pieces that, with what it was split at between them, are the text. -/
theorem exists_split (s n : String) (hs : s.length < maxCount) :
    ∃ pieces, TextMethod.split s.toList [.text n] = pieces ∧
      n.toList.intercalate pieces = s.toList := by
  have hshort {pieces : List (List Char)} (h : pieces.length ≤ s.toList.length + 1) :
      pieces.take maxCount = pieces := by
    rw [String.length_toList] at h
    exact List.take_of_length_le (h.trans hs)
  by_cases hn : n.toList = []
  · refine ⟨_, split_of_nil hn s.toList, ?_⟩
    rw [hn, hshort (by simp)]
    exact Text.intercalate_singletons s.toList
  · refine ⟨_, split_of_ne_nil hn s.toList, ?_⟩
    rw [hshort (Text.length_splitOn_le n.toList s.toList)]
    exact Text.intercalate_splitOn hn s.toList

/-- The pieces of a text, joined by what it was split at. -/
theorem split_join (s n : String) (hs : s.length < maxCount) :
    (do
      let pieces ← callMethod (.text s) "split" [.text n]
      callMethod pieces "join" [.text n]) = .ok (.text s) := by
  obtain ⟨pieces, hsplit, hpieces⟩ := exists_split s n hs
  have hjoin : ArrayMethod.join (pieces.map textValue) [.text n] = s := by
    have hseparator : ArrayMethod.join (pieces.map textValue) [.text n] =
        n.intercalate (Value.itemTexts (pieces.map textValue)) := rfl
    rw [hseparator, itemTexts_map_textValue, ← String.toList_inj, String.toList_intercalate,
      List.map_map, ← hpieces]
    simp
  have hrun : callMethod (.text s) "split" [.text n] = .ok (.array (pieces.map textValue)) :=
    congrArg (Except.ok <| Value.array <| List.map textValue ·) hsplit
  rw [hrun]
  exact congrArg (Except.ok <| Value.text ·) hjoin

/-! ### The methods together -/

/-- **The methods that search a text agree.** A text is included from a number on just when its first
position from there on is not `-1`. The first position is the least one at which it occurs from the
position of the number on, where no position is before the text or behind it; the empty text is found
right there; and the text begins with it at that position. The last position is the greatest one at
which it occurs, and it is `-1` just when the first one is. A text in which the first occurrence is
replaced is unchanged where the first position is `-1`, and otherwise the slice before it, the
replacement and the slice behind it, added. A text that is split and joined again by the same text is
unchanged. A text of at least `2 ^ 53` characters has positions that no number holds, and one of at
least `maxCount` may have too many pieces. -/
theorem search_methods_agree (s n r : String) (f : Float) :
    (callMethod (.text s) "includes" [.text n, .number f] = do
      let x ← callMethod (.text s) "indexOf" [.text n, .number f]
      applyBinary .notEq x (.number (-1))) ∧
    (∃ x, callMethod (.text s) "indexOf" [.text n, .number f] = .ok (.number x) ∧
      Locates IsLeast
        {i | (Whole.ofFloat f).clamp s.length ≤ i ∧ OccursAt n.toList s.toList i} x ∧
      (x ≠ -1 → s.length < 2 ^ 53 →
        callMethod (.text s) "startsWith" [.text n, .number x] = .ok (.bool true))) ∧
    callMethod (.text s) "indexOf" [.text "", .number f] =
      .ok (.number (Float.ofNat ((Whole.ofFloat f).clamp s.length))) ∧
    (∃ x y, callMethod (.text s) "indexOf" [.text n] = .ok (.number x) ∧
      callMethod (.text s) "lastIndexOf" [.text n] = .ok (.number y) ∧
      Locates IsGreatest {i | OccursAt n.toList s.toList i} y ∧ (y = -1 ↔ x = -1) ∧
      ∃ t, callMethod (.text s) "replace" [.text n, .text r] = .ok t ∧
        (x = -1 → t = .text s) ∧
        (x ≠ -1 → s.length < 2 ^ 53 → replaceAt s n r x = .ok t)) ∧
    (s.length < maxCount → (do
      let pieces ← callMethod (.text s) "split" [.text n]
      callMethod pieces "join" [.text n]) = .ok (.text s)) := by
  refine ⟨?_, ?_, ?_, ?_, split_join s n⟩
  · rw [callMethod_includes, callMethod_indexOf]
    exact (applyBinary_notEq_positionNumber _).symm
  · obtain ⟨x, hx, hlocates⟩ := exists_indexOf s n f
    refine ⟨x, hx, hlocates, fun hfound hs ↦ ?_⟩
    cases hlocates with
    | found picked => exact startsWith_of_occursAt picked.1.2 hs
    | missing => exact absurd rfl hfound
  · obtain ⟨x, hx, hlocates⟩ := exists_indexOf s "" f
    have hstart : (Whole.ofFloat f).clamp s.length ≤ s.toList.length :=
      (clampIndex_le _ _).trans_eq String.length_toList.symm
    rw [hx, hlocates.eq_of_isLeast (Text.isLeast_occursAt_nil hstart)]
  · obtain ⟨x, hx, hfirst⟩ := exists_indexOf_first s n
    obtain ⟨y, hy, hlast⟩ := exists_lastIndexOf s n
    refine ⟨x, y, hx, hy, hlast, ?_, exists_replace r hx⟩
    rw [hlast.eq_neg_one_iff fun _ h ↦ h.1, hfirst.eq_neg_one_iff fun _ h ↦ h.1]

/-- A text that overlaps itself where it occurs, looked for behind its first position, and one that
does not occur. -/
theorem search_methods_agree_overlapping :
    "añaña".length < 2 ^ 53 ∧ "añaña".length < maxCount ∧
    callMethod (.text "añaña") "indexOf" [.text "aña", .number 1.5] = .ok (.number 2) ∧
    callMethod (.text "añaña") "startsWith" [.text "aña", .number 2] = .ok (.bool true) ∧
    callMethod (.text "añaña") "indexOf" [.text "aña"] = .ok (.number 0) ∧
    (∃ t, callMethod (.text "añaña") "replace" [.text "aña", .text "e"] = .ok t ∧
      replaceAt "añaña" "aña" "e" 0 = .ok t) ∧
    callMethod (.text "añaña") "indexOf" [.text "b"] = .ok (.number (-1)) ∧
    callMethod (.text "añaña") "replace" [.text "b", .text "e"] = .ok (.text "añaña") ∧
    (do
      let pieces ← callMethod (.text "añaña") "split" [.text "aña"]
      callMethod pieces "join" [.text "aña"]) = .ok (.text "añaña") := by
  have hlength : "añaña".length < 2 ^ 53 := by decide
  have hcount : "añaña".length < maxCount := by decide
  have hstart : Whole.ofFloat 1.5 = .int 1 := by decide +kernel
  have hnext : callMethod (.text "añaña") "indexOf" [.text "aña", .number 1.5] =
      .ok (.number (Float.ofNat 2)) := by
    rw [callMethod_indexOf, hstart]
    rfl
  have hfirst : callMethod (.text "añaña") "indexOf" [.text "aña"] =
      .ok (.number (Float.ofNat 0)) := by
    rw [callMethod_indexOf_first]
    rfl
  have hnone : callMethod (.text "añaña") "indexOf" [.text "b"] = .ok (.number (-1)) := by
    rw [callMethod_indexOf_first]
    rfl
  obtain ⟨-, ⟨x, hx, -, hbegins⟩, -, ⟨y, -, hy, -, -, -, t, ht, -, hreplace⟩, hjoin⟩ :=
    search_methods_agree "añaña" "aña" "e" 1.5
  obtain ⟨-, -, -, ⟨z, -, hz, -, -, -, u, hu, hsame, -⟩, -⟩ :=
    search_methods_agree "añaña" "b" "e" 1.5
  obtain rfl : Float.ofNat 2 = x := Value.number.inj (Except.ok.inj (hnext.symm.trans hx))
  obtain rfl : Float.ofNat 0 = y := Value.number.inj (Except.ok.inj (hfirst.symm.trans hy))
  obtain rfl : -1 = z := Value.number.inj (Except.ok.inj (hnone.symm.trans hz))
  exact ⟨hlength, hcount, hnext, hbegins (Double.ofNat_ne_neg_one 2) hlength, hfirst,
    ⟨t, ht, hreplace (Double.ofNat_ne_neg_one 0) hlength⟩, hnone, hsame rfl ▸ hu, hjoin hcount⟩

end WebRecipe.Condition
