import WebRecipe.Number.Text
import WebRecipe.Proofs.Number.Whole

/-!
# The text of a whole double

A double that is a whole number below `2 ^ 53` is written in a JSON document with all the digits of
the number and `.0` after them: of the numbers with few digits only the number itself reads back as
the double, and so the search for the shortest digits ends with it, zeros at its end taken away.

An integer of 64 bits that is turned into a double and written as the text of a number is the integer
again just when it has at most 53 significant bits. All others are rounded, and since a double of
this size is whole, what is written is the integer that they are rounded to.

## Main definitions

* `Double.Exact`: an integer has at most 53 significant bits.

## Main results

* `Shortest.digits_whole`: the shortest digits of a whole number times their power of ten are the
  number.
* `Layout.write_ofWhole`: the text of a whole double in a document.
* `Double.exists_parts_ofWhole`: the parts of a whole number of 54 to 64 bits.
* `Double.numberText_ofInt_eq_iff`: which integers are written with their own digits.
-/

namespace WebRecipe

namespace Shortest

variable {n j : Nat}

private theorem ofBinary_quarters (m j : Nat) :
    Ratio.ofBinary m (-(j : Int) - 2) = ⟨m, 2 ^ j * 4⟩ := by
  have hexponent : (-(-(j : Int) - 2)).toNat = j + 2 := by omega
  rw [Ratio.ofBinary, if_pos (by omega), hexponent]
  exact congrArg (Ratio.mk m) (Nat.pow_add 2 j 2)

/-- The only whole number that reads back as the double of a whole number is the number itself. -/
theorem contains_around (n j x : Nat) :
    (Interval.around (n * 2 ^ j) (-(j : Int))).contains ⟨x, 1⟩ = decide (x = n) := by
  have hquarters (k : Nat) : k * (2 ^ j * 4) = 4 * (k * 2 ^ j) := by ring
  have heq : x * 2 ^ j = n * 2 ^ j ↔ x = n := Nat.mul_left_inj (Nat.ne_of_gt (Nat.two_pow_pos j))
  rw [Bool.eq_iff_iff, decide_eq_true_iff, ← heq, Interval.around, ofBinary_quarters,
    ofBinary_quarters, Interval.contains]
  simp only [Ratio.le, Ratio.lt, Nat.mul_one, beq_iff_eq]
  rw [hquarters x]
  generalize x * 2 ^ j = a
  generalize n * 2 ^ j = b
  split <;> rw [Bool.and_eq_true, decide_eq_true_iff, decide_eq_true_iff] <;> split <;> omega

private theorem exists_ofBinary (n j : Nat) :
    ∃ d, 0 < d ∧ Ratio.ofBinary (n * 2 ^ j) (-(j : Int)) = ⟨n * d, d⟩ := by
  cases j with
  | zero => exact ⟨1, by decide, congrArg (Ratio.mk · 1) (Nat.mul_one _)⟩
  | succ j =>
    refine ⟨2 ^ (j + 1), Nat.two_pow_pos _, ?_⟩
    rw [Ratio.ofBinary, if_pos (by omega)]
    rfl

private theorem ofDecimal_natCast (x k : Nat) : Ratio.ofDecimal x (k : Int) = ⟨x * 10 ^ k, 1⟩ := by
  rw [Ratio.ofDecimal, if_neg (by omega)]
  rfl

/-- The search for the shortest digits of a whole number ends with digits of the number at the latest
when it has come to the unit. -/
theorem search_whole (tieUp : Bool) (n j p : Nat) (fuel count : Nat) (hcount : count ≤ p + 1)
    (hfuel : p + 1 < fuel + count) :
    ∃ d k : Nat, search tieUp (n * 2 ^ j) (-(j : Int)) p fuel count = ⟨d, k⟩ ∧ d * 10 ^ k = n := by
  induction fuel generalizing count with
  | zero => omega
  | succ fuel ih =>
    obtain ⟨k, hk⟩ : ∃ k : Nat, (p : Int) - count + 1 = k := ⟨p + 1 - count, by omega⟩
    have hten : 0 < 10 ^ k := Nat.pow_pos (by decide)
    obtain ⟨den, hden, hvalue⟩ := exists_ofBinary n j
    have hbelow : n * den * 1 / (den * (1 * 10 ^ k)) = n / 10 ^ k := by
      rw [Nat.mul_one, Nat.one_mul, Nat.mul_comm n, Nat.mul_div_mul_left _ _ hden]
    have habove : (n / 10 ^ k + 1) * 10 ^ k ≠ n :=
      Nat.ne_of_gt ((Nat.div_lt_iff_lt_mul hten).1 (Nat.lt_succ_self _))
    rw [search]
    simp only [hk, hvalue, ofDecimal_natCast, hbelow, contains_around, decide_eq_false habove,
      Bool.and_false, Bool.false_eq_true, if_false, decide_eq_true_eq]
    split
    case isTrue hexact => exact ⟨_, k, rfl, hexact⟩
    case isFalse hrest =>
      -- at the unit nothing would be left over
      have hleft : k ≠ 0 := by
        rintro rfl
        exact hrest (by rw [Nat.pow_zero, Nat.div_one, Nat.mul_one])
      exact ih (count + 1) (by omega) (by omega)

/-- Zeros at the end of the digits are moved to the power of ten. -/
theorem strip_eq (fuel d k : Nat) :
    ∃ d' k' : Nat, strip fuel ⟨d, k⟩ = ⟨d', k'⟩ ∧ d' * 10 ^ k' = d * 10 ^ k := by
  induction fuel generalizing d k with
  | zero => exact ⟨d, k, rfl, rfl⟩
  | succ fuel ih =>
    rw [strip]
    split
    case isTrue h =>
      obtain ⟨d', k', hstrip, hvalue⟩ := ih (d / 10) (k + 1)
      refine ⟨d', k', hstrip, hvalue.trans ?_⟩
      have hzero : d = d / 10 * 10 := by
        have hrest : d % 10 = 0 := h.2
        omega
      rw [Nat.pow_succ', ← Nat.mul_assoc, ← hzero]
    case isFalse => exact ⟨d, k, rfl, rfl⟩

/-- The first digit of a whole number stands for a whole number. -/
theorem exists_leading (hn : n ≠ 0) (hlog : n.log2 ≤ 52) :
    ∃ p : Nat, leading (n * 2 ^ j) (-(j : Int)) = p ∧ p ≤ 16 := by
  obtain ⟨den, hden, hvalue⟩ := exists_ofBinary n j
  obtain ⟨guess, hguess, hguess'⟩ : ∃ guess : Nat,
      (((n * 2 ^ j).log2 : Int) + -(j : Int)) * 30103 / 100000 = guess ∧ guess ≤ 15 := by
    rw [Double.log2_mul_two_pow hn]
    exact ⟨n.log2 * 30103 / 100000, by omega, by omega⟩
  rw [leading]
  simp only [hguess, hvalue]
  split
  case isTrue hlt =>
    -- a whole number is not below one
    have hpos : guess ≠ 0 := by
      rintro rfl
      have hsmall : n * den * 1 < 1 * den := of_decide_eq_true hlt
      have hlarge : 1 * den ≤ n * den := Nat.mul_le_mul_right den (Nat.pos_of_ne_zero hn)
      omega
    exact ⟨guess - 1, by omega, by omega⟩
  case isFalse =>
    split
    case isTrue => exact ⟨guess + 1, rfl, by omega⟩
    case isFalse => exact ⟨guess, rfl, by omega⟩

/-- The shortest digits of a whole number times their power of ten are the number. -/
theorem digits_whole (tieUp : Bool) (hn : n ≠ 0) (hlog : n.log2 ≤ 52) :
    ∃ d k : Nat, digits tieUp (n * 2 ^ j) (-(j : Int)) = ⟨d, k⟩ ∧ d * 10 ^ k = n := by
  obtain ⟨p, hp, hp'⟩ := exists_leading (j := j) hn hlog
  obtain ⟨d, k, hsearch, hvalue⟩ := search_whole tieUp n j p 18 1 (by omega) (by omega)
  obtain ⟨d', k', hstrip, hvalue'⟩ := strip_eq 400 d k
  refine ⟨d', k', ?_, hvalue'.trans hvalue⟩
  rw [digits, hp, hsearch, hstrip]

end Shortest

namespace Layout

private theorem toDigits_append_zeros {d : Nat} (hd : d ≠ 0) (k : Nat) :
    Nat.toDigits 10 d ++ List.replicate k '0' = Nat.toDigits 10 (d * 10 ^ k) := by
  induction k with
  | zero => rw [List.replicate_zero, List.append_nil, Nat.pow_zero, Nat.mul_one]
  | succ k ih =>
    have hpos : 0 < d * 10 ^ k := Nat.mul_pos (Nat.pos_of_ne_zero hd) (Nat.pow_pos (by decide))
    rw [List.replicate_succ', ← List.append_assoc, ih, Nat.pow_succ, ← Nat.mul_assoc,
      Nat.mul_comm _ 10]
    exact Nat.toDigits_append_toDigits (d := 0) (by decide) hpos (by decide)

/-- Zeros after the digits of a number multiply it by ten. -/
theorem digitText_append_zeros {d : Nat} (hd : d ≠ 0) (k : Nat) :
    digitText d ++ zeros k = toString (d * 10 ^ k) := by
  refine String.toList_inj.1 ?_
  have hzeros : (zeros k).toList = List.replicate k '0' := String.toList_ofList
  rw [String.toList_append, hzeros, digitText, Nat.toString_eq_repr, Nat.toString_eq_repr,
    Nat.toList_repr, Nat.toList_repr, toDigits_append_zeros hd]

/-- A whole number of at most sixteen digits is written with all of them. -/
theorem decimal_document {n d k : Nat} (hn : n ≠ 0) (hvalue : d * 10 ^ k = n) (hsize : n < 10 ^ 16) :
    document.decimal ⟨d, k⟩ = toString n ++ ".0" := by
  have hd : d ≠ 0 := by
    rintro rfl
    exact hn (by rw [← hvalue, Nat.zero_mul])
  have htext := digitText_append_zeros hd k
  rw [hvalue] at htext
  have hlength : (digitText d).length + k ≤ 16 := by
    have hdigits : (toString n).length ≤ 16 := by
      rw [Nat.toString_eq_repr, ← String.length_toList, Nat.toList_repr]
      exact (Nat.length_toDigits_le_iff (by decide) (by decide)).2 hsize
    rw [← htext, String.length_append] at hdigits
    have hzeros : (zeros k).length = k := by simp [zeros]
    rwa [hzeros] at hdigits
  have hpositive : 0 < (digitText d).length := by
    rw [digitText, Nat.toString_eq_repr, ← String.length_toList, Nat.toList_repr]
    exact Nat.length_toDigits_pos
  have hsmall : decide ((k : Int) + ((digitText d).length : Int) - 1 < -5) = false :=
    decide_eq_false (by omega)
  have hlarge : decide ((k : Int) + ((digitText d).length : Int) - 1 > 15) = false :=
    decide_eq_false (by omega)
  simp only [decimal, document, hsmall, hlarge, Bool.or_false, Bool.false_eq_true, if_false]
  rw [positional, if_pos (by omega), if_pos rfl, Int.toNat_natCast, htext]

/-- A double that is a whole number is written with all digits of the number. -/
theorem write_ofWhole (negative : Bool) {n : Nat} (hn : n < 2 ^ 53) :
    document.write (Double.ofWhole negative n) =
      (if negative then "-" else "") ++ (toString n ++ ".0") := by
  have hbody : document.write (Double.ofWhole negative n) =
      if negative then "-" ++ (toString n ++ ".0") else toString n ++ ".0" := by
    rw [write]
    by_cases h : n = 0
    · subst h
      rw [Double.parts_ofWhole_zero]
      rfl
    · have hlog := Double.log2_le hn
      have hmantissa : n * 2 ^ (52 - n.log2) ≠ 0 :=
        Nat.mul_ne_zero h (Nat.ne_of_gt (Nat.two_pow_pos _))
      obtain ⟨d, k, hdigits, hvalue⟩ := Shortest.digits_whole (j := 52 - n.log2) false h hlog
      rw [Double.parts_ofWhole negative h hn,
        show (n.log2 : Int) - 52 = -((52 - n.log2 : Nat) : Int) by omega]
      simp only [if_neg hmantissa]
      rw [show document.tieUp = false from rfl, hdigits, decimal_document h hvalue (by omega)]
  rw [hbody]
  cases negative with
  | true => rfl
  | false => exact (String.empty_append).symm

end Layout
end WebRecipe

namespace WebRecipe

open Float.Model (Format)
open Float.Model.UnpackedFloat

namespace Double

/-- An integer has at most 53 significant bits: a number below `2 ^ 53`, and zeros after it. -/
def Exact (z : Int) : Prop :=
  ∃ m k : Nat, m < 2 ^ 53 ∧ z.natAbs = m * 2 ^ k

variable {n : Nat} {negative : Bool}

/-! ### Parts -/

/-- The parts of a whole number with a sign are those of the number. -/
theorem parts_ofWhole_of_ofNat {m : Nat} {e : Int} (h : Normal m e)
    (hn : Float.ofNat n = packed (.finite .positive m e h.pos)) (negative : Bool) :
    Binary64.ofFloat (ofWhole negative n) = .finite negative m e := by
  cases negative with
  | false =>
    rw [show ofWhole false n = Float.ofNat n from rfl, hn, Binary64.ofFloat_eq,
      unpacked_packed_finite h]
    rfl
  | true =>
    have hneg : (finite .positive m e h.pos).neg = .finite .negative m e h.pos := rfl
    rw [show ofWhole true n = -Float.ofNat n from rfl, hn, neg_eq, unpacked_packed_finite h, hneg,
      Binary64.ofFloat_eq, unpacked_packed_finite h]
    rfl

/-- A whole number of 54 to 64 bits has 53 bits and zeros after them when it is rounded. -/
theorem exists_parts_ofWhole (negative : Bool) (hlow : 2 ^ 53 ≤ n) (hhigh : n < 2 ^ 64) :
    ∃ m e : Nat, m.log2 = 52 ∧ e ≤ 12 ∧
      Binary64.ofFloat (ofWhole negative n) = .finite negative m e := by
  have hne : n ≠ 0 := by omega
  have hlog : 53 ≤ n.log2 := (Nat.le_log2 hne).2 hlow
  have hlog' : n.log2 < 64 := (Nat.log2_lt hne).2 hhigh
  obtain ⟨m, c, hpos, hm, hc, hround⟩ := exists_roundWithAccuracy (m := n * 2 ^ 53) (e := -53)
    (k := n.log2 + 1) (by rw [log2_mul_two_pow hne]; omega) (by omega) .positive
  have hexponent : (-53 : Int) + (n.log2 + 1 : Nat) + c = (n.log2 - 52 + c : Nat) := by omega
  have hnormal : Normal m ((n.log2 - 52 + c : Nat) : Int) := ⟨hm, by omega, by omega⟩
  refine ⟨m, n.log2 - 52 + c, hm, by omega, parts_ofWhole_of_ofNat hnormal ?_ negative⟩
  rw [ofNat_large hlow, hround]
  simp only [hexponent]

/-- A whole number of at most 53 significant bits is not rounded. -/
theorem exists_parts_ofWhole_exact (negative : Bool) (hlow : 2 ^ 53 ≤ n) (hhigh : n < 2 ^ 64)
    {m k : Nat} (hm : m < 2 ^ 53) (hn : n = m * 2 ^ k) :
    ∃ m' e : Nat, m' * 2 ^ e = n ∧
      Binary64.ofFloat (ofWhole negative n) = .finite negative m' e := by
  have hne : n ≠ 0 := by omega
  have hpos : m ≠ 0 := by
    rintro rfl
    rw [Nat.zero_mul] at hn
    exact hne hn
  have hlog := log2_le hm
  have hbits : n.log2 = m.log2 + k := by rw [hn, log2_mul_two_pow hpos]
  have hlog' : 53 ≤ n.log2 := (Nat.le_log2 hne).2 hlow
  have hlog'' : n.log2 < 64 := (Nat.log2_lt hne).2 hhigh
  have hnormal : Normal (m * 2 ^ (52 - m.log2)) ((k - (52 - m.log2) : Nat) : Int) := by
    refine ⟨?_, by omega, by omega⟩
    rw [log2_mul_two_pow hpos]
    omega
  have hvalue : m * 2 ^ (52 - m.log2) * 2 ^ (k - (52 - m.log2)) = n := by
    rw [Nat.mul_assoc, ← Nat.pow_add, Nat.add_sub_cancel' (by omega), hn]
  refine ⟨_, _, hvalue, parts_ofWhole_of_ofNat hnormal ?_ negative⟩
  rw [← ofNat_mul_two_pow hnormal (by omega), hvalue]

/-! ### Digits -/

theorem magnitude_zero (e : Int) : Whole.magnitude 0 e = 0 := by
  cases e <;> simp [Whole.magnitude]

theorem signed_zero (negative : Bool) : Whole.signed negative 0 = 0 := by
  cases negative <;> rfl

/-- A double that is a whole number below `10 ^ 21` is written with the digits of the number. -/
theorem numberText_of_whole {x : Float} {z : Int} (hwhole : isWhole x = true)
    (hz : Whole.ofFloat x = .int z) (hsize : z.natAbs < 10 ^ 21) : numberText x = toString z := by
  obtain ⟨negative, m, e, hx, hwhole⟩ := exists_parts_of_isWhole hwhole
  rw [Whole.ofFloat, hx] at hz
  rw [numberText, hx]
  dsimp only
  by_cases hm : m = 0
  · rw [hm, Whole.ofBinary64, magnitude_zero, signed_zero] at hz
    rw [if_pos hm, ← Whole.int.inj hz]
    rfl
  · rw [if_neg hm, hz]
    exact if_pos ⟨hwhole, hsize⟩

/-- A whole number below `2 ^ 53` is whole as a double. -/
theorem isWhole_ofWhole (negative : Bool) (hn : n < 2 ^ 53) :
    isWhole (ofWhole negative n) = true ∧
      Whole.ofFloat (ofWhole negative n) = .int (Whole.signed negative n) := by
  rw [isWhole, Whole.ofFloat]
  by_cases h : n = 0
  · rw [h, parts_ofWhole_zero, Whole.ofBinary64, magnitude_zero]
    exact ⟨by cases negative <;> decide +kernel, rfl⟩
  · have hlog := log2_le hn
    obtain ⟨j, hj⟩ : ∃ j, 52 - n.log2 = j := ⟨_, rfl⟩
    rw [parts_ofWhole negative h hn, hj, show (n.log2 : Int) - 52 = -(j : Int) by omega]
    cases j with
    | zero => simp [Binary64.isWhole, Whole.ofBinary64, Whole.magnitude]
    | succ j =>
      rw [show -((j + 1 : Nat) : Int) = Int.negSucc j from rfl]
      simp [Binary64.isWhole, Whole.ofBinary64, Whole.magnitude]

/-- **The integers that are written with their own digits.** They are those of at most 53
significant bits. -/
theorem numberText_ofInt_eq_iff {z : Int} (hz : z.natAbs < 2 ^ 64) :
    numberText (Float.ofInt z) = toString z ↔ Exact z := by
  rw [ofInt_eq]
  by_cases hsmall : z.natAbs < 2 ^ 53
  · obtain ⟨hwhole, hvalue⟩ := isWhole_ofWhole (decide (z < 0)) hsmall
    rw [signed_natAbs] at hvalue
    exact iff_of_true (numberText_of_whole hwhole hvalue (by omega))
      ⟨z.natAbs, 0, hsmall, (Nat.mul_one _).symm⟩
  · have hlarge : 2 ^ 53 ≤ z.natAbs := Nat.le_of_not_lt hsmall
    obtain ⟨m, e, hm, he, hparts⟩ := exists_parts_ofWhole (decide (z < 0)) hlarge hz
    have hbits : m < 2 ^ 53 := (Nat.log2_lt (by rintro rfl; cases hm)).1 (hm ▸ by decide)
    have hpow : 2 ^ e ≤ 2 ^ 12 := Nat.pow_le_pow_right (by decide) he
    have hmagnitude : m * 2 ^ e < 10 ^ 21 :=
      Nat.lt_of_le_of_lt (Nat.mul_le_mul (Nat.le_of_lt hbits) hpow) (by decide)
    have hwritten : numberText (ofWhole (decide (z < 0)) z.natAbs) =
        toString (Whole.signed (decide (z < 0)) (m * 2 ^ e)) := by
      refine numberText_of_whole ?_ ?_ ?_
      · rw [isWhole, hparts]
        rfl
      · rw [Whole.ofFloat, hparts]
        rfl
      · rw [Whole.signed]
        split <;> omega
    rw [hwritten]
    constructor
    · intro h
      have hsame : Whole.signed (decide (z < 0)) (m * 2 ^ e) = z := Int.repr_injective h
      refine ⟨m, e, hbits, ?_⟩
      rw [← hsame, Whole.signed]
      split <;> omega
    · rintro ⟨m', k, hm', hvalue⟩
      obtain ⟨m'', e'', hexact, hparts'⟩ :=
        exists_parts_ofWhole_exact (decide (z < 0)) hlarge hz hm' hvalue
      rw [hparts] at hparts'
      cases hparts'
      rw [hexact, signed_natAbs]

end Double
end WebRecipe
