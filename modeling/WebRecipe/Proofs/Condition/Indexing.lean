import Mathlib.Data.List.Induction
import WebRecipe.Condition.Eval
import WebRecipe.Proofs.Condition.FlatText

/-!
# Positions as property keys

The elements of an array and the characters of a text are read under their positions. A position is
written in decimal. Besides the digits of the position, a plus sign and superfluous zeros are
accepted, so an element is read under more keys than one. Under a key without them, an element is
read exactly when the key is how its position is written.

## Main definitions

* `Value.elements?`: what a value has under positions.
* `Spells`: a key writes a position.
* `Bare`: a key has neither a sign nor a superfluous zero.
* `Selects`: what is read of elements, given which positions a key stands for.

## Main results

* `readNatural?_eq_some_iff`, `Spells.unique`: the position that a key is read as.
* `evaluate_member_selects`: what a key reads of an array or a text, and which keys an array has.
-/

namespace WebRecipe.Condition

/-! ### Digits -/

/-- A character whose value is a decimal digit is how the digit is written. -/
private theorem eq_digitChar {c : Char} {d : Nat} (h : digitValue? c = some d) (hd : d < 10) :
    c = Nat.digitChar d := by
  have hvalue : c.toNat = 48 + d := by
    rw [digitValue?] at h
    split at h
    case isTrue hrange =>
      have hlow : 48 ≤ c.toNat := UInt32.le_iff_toNat_le.1 hrange.1
      obtain rfl : c.toNat - 48 = d := Option.some.inj h
      omega
    case isFalse =>
      split at h
      case isTrue =>
        obtain rfl := Option.some.inj h
        omega
      case isFalse =>
        split at h
        case isTrue =>
          obtain rfl := Option.some.inj h
          omega
        case isFalse => cases h
  exact Char.toNat_inj.1 (hvalue.trans (Nat.toNat_digitChar_of_lt_ten hd).symm)

/-- A further digit makes ten times as much of what the digits before it write. -/
private theorem digitsValue?_concat (cs : List Char) (c : Char) :
    digitsValue? 10 (cs ++ [c]) = (digitsValue? 10 cs).bind fun n ↦
      (digitValue? c).bind fun d ↦ if d < 10 then some (n * 10 + d) else none :=
  List.foldl_append

/-- The digits of a number write it. -/
private theorem digitsValue?_toDigits (n : Nat) : digitsValue? 10 (Nat.toDigits 10 n) = some n := by
  induction n using Nat.strongRecOn with
  | ind n ih =>
    by_cases hsmall : n < 10
    · rw [Nat.toDigits_of_lt_base hsmall, ← List.nil_append [n.digitChar], digitsValue?_concat,
        digitValue?_digitChar ⟨n, hsmall⟩]
      exact (if_pos hsmall).trans (congrArg some (Nat.zero_add n))
    · have hmod : n % 10 < 10 := Nat.mod_lt n (by decide)
      rw [Nat.toDigits_of_base_le (by decide) (by omega), digitsValue?_concat,
        ih (n / 10) (by omega), Option.bind_some, digitValue?_digitChar ⟨n % 10, hmod⟩,
        Option.bind_some, if_pos hmod, Nat.div_add_mod']

/-- Zeros before digits change nothing. -/
private theorem digitsValue?_zeros (zeros : Nat) (cs : List Char) :
    digitsValue? 10 (List.replicate zeros '0' ++ cs) = digitsValue? 10 cs := by
  induction zeros with
  | zero => rfl
  | succ zeros ih => exact ih

/-- Digits that write a number are its digits after zeros. -/
private theorem exists_zeros {cs : List Char} (hne : cs ≠ []) {n : Nat}
    (h : digitsValue? 10 cs = some n) :
    ∃ zeros, cs = List.replicate zeros '0' ++ Nat.toDigits 10 n := by
  induction cs using List.reverseRecOn generalizing n with
  | nil => exact absurd rfl hne
  | append_singleton cs c ih =>
    rw [digitsValue?_concat] at h
    obtain ⟨m, hm, h⟩ := Option.bind_eq_some_iff.1 h
    obtain ⟨d, hd, h⟩ := Option.bind_eq_some_iff.1 h
    split at h
    case isFalse => cases h
    case isTrue hsmall =>
      obtain rfl := Option.some.inj h
      have hc : Nat.toDigits 10 d = [c] := by
        rw [Nat.toDigits_of_lt_base hsmall, ← eq_digitChar hd hsmall]
      by_cases hcs : cs = []
      · subst hcs
        obtain rfl : 0 = m := Option.some.inj hm
        exact ⟨0, by rw [Nat.zero_mul, Nat.zero_add, hc]; rfl⟩
      obtain ⟨zeros, rfl⟩ := ih hcs hm
      -- a zero before the last digit is one more superfluous zero
      rcases Nat.eq_zero_or_pos m with rfl | hpos
      · refine ⟨zeros + 1, ?_⟩
        rw [Nat.zero_mul, Nat.zero_add, hc, List.replicate_succ']
        rfl
      · have hnext : Nat.toDigits 10 (m * 10 + d) = Nat.toDigits 10 m ++ [c] := by
          have hdiv : (m * 10 + d) / 10 = m := by omega
          have hmod : (m * 10 + d) % 10 = d := by omega
          rw [Nat.toDigits_of_base_le (by decide) (by omega), hdiv, hmod, ← eq_digitChar hd hsmall]
        exact ⟨zeros, by rw [hnext, List.append_assoc]⟩

/-! ### Positions -/

/-- A key writes a position: a plus sign or none, any zeros, and the position in decimal. -/
def Spells (key : String) (i : Nat) : Prop :=
  ∃ (plus : Bool) (zeros : Nat),
    key = (if plus then "+" else "") ++ String.ofList (List.replicate zeros '0') ++ toString i

/-- A key has no plus sign, and begins with a zero only if it is nothing else. -/
def Bare (key : String) : Prop :=
  ∀ c ∈ key.toList.head?, c ≠ '+' ∧ (c = '0' → key = "0")

private theorem spells_iff {key : String} {i : Nat} :
    Spells key i ↔ ∃ (plus : Bool) (zeros : Nat), key.toList =
      (if plus then ['+'] else []) ++ (List.replicate zeros '0' ++ Nat.toDigits 10 i) := by
  refine exists_congr fun plus ↦ exists_congr fun zeros ↦ ?_
  rw [← String.toList_inj, String.toList_append, String.toList_append, String.toList_ofList,
    List.append_assoc]
  have hplus : (if plus then "+" else "").toList = if plus then ['+'] else [] := by
    cases plus <;> rfl
  have hdigits : (toString i).toList = Nat.toDigits 10 i := Nat.toList_repr
  rw [hplus, hdigits]

/-- The digits of a position after zeros do not begin with a sign. -/
private theorem body_ne_plus (zeros i : Nat) (rest : List Char) :
    List.replicate zeros '0' ++ Nat.toDigits 10 i ≠ '+' :: rest := by
  intro h
  have hmem : '+' ∈ List.replicate zeros '0' ++ Nat.toDigits 10 i := h ▸ List.mem_cons_self
  rcases List.mem_append.1 hmem with hzero | hdigit
  · exact absurd (List.eq_of_mem_replicate hzero) (by decide)
  · exact absurd (Nat.isDigit_of_mem_toDigits (by decide) (by decide) hdigit) (by decide)

/-- Digits are read as the number that they write. -/
private theorem readDigits_eq_some_iff {cs : List Char} {i bound : Nat} :
    (if cs.isEmpty then none
      else (digitsValue? 10 cs).bind fun n ↦ if n < bound then some n else none) = some i ↔
      (∃ zeros, cs = List.replicate zeros '0' ++ Nat.toDigits 10 i) ∧ i < bound := by
  constructor
  · intro h
    split at h
    case isTrue => cases h
    case isFalse hne =>
      obtain ⟨n, hn, h⟩ := Option.bind_eq_some_iff.1 h
      split at h
      case isTrue hlt =>
        obtain rfl := Option.some.inj h
        exact ⟨exists_zeros (fun hnil ↦ hne (List.isEmpty_iff.2 hnil)) hn, hlt⟩
      case isFalse => cases h
  · rintro ⟨⟨zeros, rfl⟩, hlt⟩
    have hne : (List.replicate zeros '0' ++ Nat.toDigits 10 i).isEmpty = false :=
      List.isEmpty_eq_false_iff.2 (List.append_ne_nil_of_right_ne_nil _ Nat.toDigits_ne_nil)
    rw [hne, digitsValue?_zeros, digitsValue?_toDigits]
    exact if_pos hlt

/-- A key is read as the position that it writes, if the position is below the bound. -/
theorem readNatural?_eq_some_iff {key : String} {i bound : Nat} :
    readNatural? 10 bound key.toList = some i ↔ Spells key i ∧ i < bound := by
  rw [spells_iff]
  generalize key.toList = cs
  by_cases hplus : ∃ rest, cs = '+' :: rest
  · obtain ⟨rest, rfl⟩ := hplus
    refine readDigits_eq_some_iff.trans (and_congr_left fun _ ↦ ⟨?_, ?_⟩)
    · rintro ⟨zeros, rfl⟩
      exact ⟨true, zeros, rfl⟩
    · rintro ⟨_ | _, zeros, h⟩
      · exact absurd h.symm (body_ne_plus zeros i rest)
      · exact ⟨zeros, (List.cons.inj h).2⟩
  · have hread : readNatural? 10 bound cs = if cs.isEmpty then none
        else (digitsValue? 10 cs).bind fun n ↦ if n < bound then some n else none := by
      rw [readNatural?]
      · rfl
      · exact fun rest hcs ↦ hplus ⟨rest, hcs⟩
    rw [hread]
    refine readDigits_eq_some_iff.trans (and_congr_left fun _ ↦ ⟨?_, ?_⟩)
    · rintro ⟨zeros, rfl⟩
      exact ⟨false, zeros, rfl⟩
    · rintro ⟨_ | _, zeros, h⟩
      · exact ⟨zeros, h⟩
      · exact absurd ⟨_, h⟩ hplus

theorem indexKey?_eq_some_iff {key : String} {i : Nat} :
    indexKey? key = some i ↔ Spells key i ∧ i < Nat.pow 2 64 :=
  readNatural?_eq_some_iff

/-- A key writes one position at most. -/
theorem Spells.unique {key : String} {i j : Nat} (hi : Spells key i) (hj : Spells key j) :
    i = j := by
  have hreadi : readNatural? 10 (max i j + 1) key.toList = some i :=
    readNatural?_eq_some_iff.2 ⟨hi, Nat.lt_succ_of_le (Nat.le_max_left i j)⟩
  have hreadj : readNatural? 10 (max i j + 1) key.toList = some j :=
    readNatural?_eq_some_iff.2 ⟨hj, Nat.lt_succ_of_le (Nat.le_max_right i j)⟩
  exact Option.some.inj (hreadi.symm.trans hreadj)

/-- A bare key writes the position that it is the decimal text of. -/
theorem Bare.spells_iff_eq {key : String} (h : Bare key) {i : Nat} :
    Spells key i ↔ key = toString i := by
  rw [spells_iff]
  constructor
  · rintro ⟨_ | _, _ | zeros, hkey⟩
    · exact String.toList_inj.1 (hkey.trans Nat.toList_repr.symm)
    · -- a key that begins with a zero is nothing else, so no digit of the position is left
      have hzero : key = "0" := (h '0' (by rw [hkey]; rfl)).2 rfl
      rw [hzero] at hkey
      have hnil : List.replicate zeros '0' ++ Nat.toDigits 10 i = [] := (List.cons.inj hkey).2.symm
      exact absurd (List.append_eq_nil_iff.1 hnil).2 Nat.toDigits_ne_nil
    · exact absurd rfl (h '+' (by rw [hkey]; rfl)).1
    · exact absurd rfl (h '+' (by rw [hkey]; rfl)).1
  · rintro rfl
    exact ⟨false, 0, Nat.toList_repr⟩

/-! ### Elements -/

/-- The elements of an array, and the characters of a text. -/
def Value.elements? : Value → Option (List Value)
  | .array items => some items
  | .text s => some (s.toList.map fun c ↦ .text c.toString)
  | _ => none

/-- What is read of elements: one at a position that the key stands for, or `undefined` where the
key stands for none. -/
inductive Selects (standsFor : Nat → Prop) (elements : List Value) : Value → Prop where
  | element {i : Nat} {v : Value} (hkey : standsFor i) (hv : elements[i]? = some v) :
      Selects standsFor elements v
  | missing (hkey : ∀ i, standsFor i → elements.length ≤ i) :
      Selects standsFor elements .undefined

theorem Selects.congr {standsFor standsFor' : Nat → Prop} {elements : List Value} {v : Value}
    (h : Selects standsFor elements v) (hiff : ∀ i, standsFor i ↔ standsFor' i) :
    Selects standsFor' elements v := by
  cases h with
  | element hkey hv => exact .element ((hiff _).1 hkey) hv
  | missing hkey => exact .missing fun i hi ↦ hkey i ((hiff i).2 hi)

/-- The element at the position that a key is read as is one at a position that the key writes. -/
private theorem selects_indexKey {elements : List Value} (hsize : elements.length ≤ Nat.pow 2 64)
    (key : String) :
    Selects (Spells key) elements (((indexKey? key).bind (elements[·]?)).getD .undefined) := by
  cases hread : (indexKey? key).bind (elements[·]?) with
  | some v =>
    obtain ⟨i, hi, hv⟩ := Option.bind_eq_some_iff.1 hread
    exact .element (indexKey?_eq_some_iff.1 hi).1 hv
  | none =>
    refine .missing fun i hi ↦ Nat.le_of_not_lt fun hlt ↦ ?_
    have hindex : indexKey? key = some i :=
      indexKey?_eq_some_iff.2 ⟨hi, Nat.lt_of_lt_of_le hlt hsize⟩
    rw [hindex, Option.bind_some, List.getElem?_eq_getElem hlt] at hread
    cases hread

/-- A key is read as a position. -/
private theorem getProperty_of_elements {x : Value} {elements : List Value} {key : String}
    (hx : x.elements? = some elements) (hkey : key ≠ "length") :
    getProperty x key = .ok (((indexKey? key).bind (elements[·]?)).getD .undefined) := by
  cases x with
  | array items =>
    obtain rfl := Option.some.inj hx
    rw [getProperty, if_neg hkey]
  | text s =>
    obtain rfl := Option.some.inj hx
    rw [getProperty, if_neg hkey]
    cases hindex : indexKey? key with
    | none => rfl
    | some i =>
      rw [Option.bind_some, Option.bind_some, List.getElem?_map]
      cases s.toList[i]? <;> rfl
  | _ => cases hx

/-- An array has the keys that write its positions, and `length`. -/
private theorem hasProperty_array {items : List Value} (hsize : items.length ≤ Nat.pow 2 64)
    (key : String) : ∃ c, hasProperty key (.array items) = .ok c ∧
      (c = true ↔ key = "length" ∨ ∃ i < items.length, Spells key i) := by
  refine ⟨_, rfl, ?_⟩
  rw [Bool.or_eq_true, beq_iff_eq]
  refine or_congr_right ⟨fun h ↦ ?_, ?_⟩
  · cases hindex : indexKey? key with
    | none =>
      rw [hindex] at h
      cases h
    | some i =>
      rw [hindex] at h
      exact ⟨i, of_decide_eq_true h, (indexKey?_eq_some_iff.1 hindex).1⟩
  · rintro ⟨i, hlt, hi⟩
    rw [indexKey?_eq_some_iff.2 ⟨hi, Nat.lt_of_lt_of_le hlt hsize⟩]
    exact decide_eq_true hlt

/-- Of an array or a text, a key other than `length` reads the element at the position that it
writes, with or without a plus sign and superfluous zeros, and nothing if it writes none below the
length. A bare key reads an element exactly when it is the decimal text of a position below the
length. An array is said to have the keys that read its elements, and `length`. -/
theorem evaluate_member_selects {b : Bindings} {target : Expr} {x : Value} {elements : List Value}
    (htarget : evaluate b target = .ok x) (hx : x.elements? = some elements)
    (hsize : elements.length ≤ Nat.pow 2 64) :
    (∀ m key, evaluateMemberKey b m = .ok key → key ≠ "length" →
      ∃ v, evaluate b (.member target m) = .ok v ∧ Selects (Spells key) elements v ∧
        (Bare key → Selects (key = toString ·) elements v)) ∧
    (x = .array elements → ∀ e k, evaluate b e = .ok k →
      ∃ c, evaluate b (.binary .isIn e target) = .ok (.bool c) ∧
        (c = true ↔ k.toText = "length" ∨ ∃ i < elements.length, Spells k.toText i) ∧
        (Bare k.toText →
          (c = true ↔ k.toText = "length" ∨ ∃ i < elements.length, k.toText = toString i))) := by
  refine ⟨fun m key hkey hlength ↦ ?_, ?_⟩
  · have hselects := selects_indexKey hsize key
    refine ⟨_, ?_, hselects, fun hbare ↦ hselects.congr fun _ ↦ hbare.spells_iff_eq⟩
    rw [evaluate, htarget, ← getProperty_of_elements hx hlength]
    change (do let k ← evaluateMemberKey b m; getProperty x k) = _
    rw [hkey]
    rfl
  · rintro rfl e k hk
    obtain ⟨c, hc, hiff⟩ := hasProperty_array hsize k.toText
    refine ⟨c, ?_, hiff, fun hbare ↦ ?_⟩
    · rw [evaluate, hk, htarget]
      change (do return Value.bool (← hasProperty k.toText (.array elements))) = _
      rw [hc]
      rfl
    · simpa only [hbare.spells_iff_eq] using hiff

/-- The second of two items is read under the decimal text of its position, and the array has the
key. -/
theorem evaluate_member_second :
    (∃ v, evaluate [] (.member (.array [.number 10, .number 20]) (.computed (.text "1"))) = .ok v ∧
      Selects ("1" = toString ·) [.number 10, .number 20] v) ∧
    evaluate [] (.binary .isIn (.text "1") (.array [.number 10, .number 20])) =
      .ok (.bool true) := by
  have hbare : Bare "1" := by
    intro c hc
    obtain rfl : '1' = c := Option.some.inj hc
    exact ⟨by decide, by decide⟩
  have htarget : evaluate [] (.array [.number 10, .number 20]) =
      .ok (.array [.number 10, .number 20]) := rfl
  have hall := evaluate_member_selects htarget rfl (by decide)
  obtain ⟨v, hv, -, hselects⟩ := hall.1 (.computed (.text "1")) "1" rfl (by decide)
  obtain ⟨c, hc, -, hiff⟩ := hall.2 rfl (.text "1") (.text "1") rfl
  obtain rfl := (hiff hbare).2 (.inr ⟨1, by decide, rfl⟩)
  exact ⟨⟨v, hv, hselects hbare⟩, hc⟩

/-- The second of two items is read under its position with a superfluous zero, which is not the
decimal text of a position. -/
theorem evaluate_member_superfluous_zero :
    evaluate [] (.member (.array [.number 10, .number 20]) (.computed (.text "01"))) =
      .ok (.number 20) ∧ ∀ i : Nat, "01" ≠ toString i := by
  refine ⟨rfl, fun i h ↦ ?_⟩
  have hone : Spells "01" 1 := ⟨false, 1, rfl⟩
  have hi : Spells "01" i := ⟨false, 0, h.trans String.empty_append.symm⟩
  obtain rfl := hi.unique hone
  exact absurd h (by decide)

end WebRecipe.Condition
