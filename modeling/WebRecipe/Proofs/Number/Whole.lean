import WebRecipe.Proofs.Number.Rounding

/-!
# Whole numbers as doubles

A whole number below `2 ^ 53` is exactly a double, and so is ten times the number up to `2 ^ 54`, which
divided by ten is the number again. Doubles that are whole compare as the numbers do.

## Main definitions

* `Double.ofWhole`: a whole number with a sign as a double.
* `Double.wholeParts`: its sign, mantissa and exponent.

## Main results

* `Double.ofNat_eq`: a whole number below `2 ^ 53` is exactly a double.
* `Double.ofNat_ten_mul_div`: ten times a whole number is divided by ten exactly.
* `Double.ofInt_lt_thousand_mul`: milliseconds are compared with whole seconds as integers are.
-/

namespace WebRecipe

open Float.Model (Format UnpackedFloat totalExponent)
open Float.Model.UnpackedFloat

namespace Double

/-- A whole number as a double; zero has a sign, too. -/
def ofWhole (negative : Bool) (n : Nat) : Float :=
  if negative then -Float.ofNat n else Float.ofNat n

/-- The parts of a whole number. -/
def wholeParts (s : Sign) (n : Nat) : UnpackedFloat :=
  if h : n = 0 then .zero s
  else .finite s (n * 2 ^ (52 - n.log2)) ((n.log2 : Int) - 52)
    (Nat.mul_pos (Nat.pos_of_ne_zero h) (Nat.two_pow_pos _))

variable {n : Nat}

theorem log2_le (hn : n < 2 ^ 53) : n.log2 ≤ 52 := by
  by_cases h : n = 0
  · rw [h, Nat.log2_zero]
    decide
  · exact Nat.le_of_lt_succ ((Nat.log2_lt h).2 hn)

/-- A product has as many bits as its factors, or one less. -/
private theorem log2_mul_bounds {c : Nat} (hc : c ≠ 0) (h : n ≠ 0) :
    n.log2 + c.log2 ≤ (c * n).log2 ∧ (c * n).log2 ≤ n.log2 + c.log2 + 1 := by
  obtain ⟨hlow, hhigh⟩ := (Nat.log2_eq_iff h).1 rfl
  obtain ⟨hclow, hchigh⟩ := (Nat.log2_eq_iff hc).1 rfl
  have hne : c * n ≠ 0 := Nat.mul_ne_zero hc h
  refine ⟨(Nat.le_log2 hne).2 ?_, Nat.le_of_lt_succ ((Nat.log2_lt hne).2 ?_)⟩
  · rw [Nat.add_comm, Nat.pow_add]
    exact Nat.mul_le_mul hclow hlow
  · rw [show (n.log2 + c.log2 + 1).succ = c.log2 + 1 + (n.log2 + 1) by omega, Nat.pow_add]
    exact Nat.mul_lt_mul'' hchigh hhigh

/-- A whole number that is not zero is put to 53 bits. -/
theorem normal_whole (h : n ≠ 0) (hn : n < 2 ^ 53) :
    Normal (n * 2 ^ (52 - n.log2)) ((n.log2 : Int) - 52) := by
  have hlog := log2_le hn
  refine ⟨?_, by omega, by omega⟩
  rw [log2_mul_two_pow h]
  omega

theorem unpacked_packed_whole (s : Sign) (hn : n < 2 ^ 53) :
    unpacked (packed (wholeParts s n)) = wholeParts s n := by
  rw [wholeParts]
  split
  case isTrue => exact unpacked_packed_zero s
  case isFalse h => exact unpacked_packed_finite (normal_whole h hn) s

/-- A whole number below `2 ^ 53` is not rounded, with whatever exponent it is given. -/
theorem round_mul_two_pow (s : Sign) (h : n ≠ 0) (hn : n < 2 ^ 53) (j : Nat) :
    UnpackedFloat.round .binary64 s (n * 2 ^ j) (-(j : Int)) = wholeParts s n := by
  have hlog := log2_le hn
  have htarget : Format.binary64.targetExponent (totalExponent (n * 2 ^ j) (-(j : Int))) =
      (n.log2 : Int) - 52 := by
    simp only [Format.targetExponent, totalExponent, Format.mantissaBits, Format.minExponent,
      log2_mul_two_pow h]
    omega
  rw [UnpackedFloat.round, htarget, decreaseExponent, Nat.shiftLeft_eq, wholeParts, dif_neg h]
  by_cases hj : j + n.log2 ≤ 52
  · have hshift : (-(j : Int) - ((n.log2 : Int) - 52)).toNat = 52 - n.log2 - j := by omega
    rw [hshift]
    refine roundWithAccuracy_exact (normal_whole h hn) (k := 0) ?_ (by omega) s
    rw [Nat.mul_assoc, ← Nat.pow_add, Nat.pow_zero, Nat.mul_one]
    congr 2
    omega
  · have hshift : (-(j : Int) - ((n.log2 : Int) - 52)).toNat = 0 := by omega
    rw [hshift]
    refine roundWithAccuracy_exact (normal_whole h hn) (k := j + n.log2 - 52) ?_ (by omega) s
    rw [Nat.pow_zero, Nat.mul_one, Nat.mul_assoc, ← Nat.pow_add]
    congr 2
    omega

/-- Whole numbers below `2 ^ 53` are not rounded. -/
theorem round_whole (s : Sign) (h : n ≠ 0) (hn : n < 2 ^ 53) :
    UnpackedFloat.round .binary64 s n 0 = wholeParts s n := by
  rw [← round_mul_two_pow s h hn 0, Nat.pow_zero, Nat.mul_one]
  rfl

private theorem unpacked_one : unpacked (Float.ofBits 0x3FF0000000000000) =
    .finite .positive (2 ^ 52) (-52) (by decide) :=
  rfl

private theorem mul_one (s : Sign) (hn : n < 2 ^ 53) :
    packed (wholeParts s n) * Float.ofBits 0x3FF0000000000000 = packed (wholeParts s n) := by
  have hsign : s * Sign.positive = s := by cases s <;> rfl
  rw [mul_eq, unpacked_packed_whole s hn, unpacked_one, wholeParts]
  refine congrArg packed ?_
  split
  case isTrue => exact congrArg zero hsign
  case isFalse h =>
    rw [mul, hsign]
    exact roundWithAccuracy_exact (normal_whole h hn) rfl (by omega) s

/-- A whole number below `2 ^ 53` is exactly a double. -/
theorem ofNat_eq (hn : n < 2 ^ 53) : Float.ofNat n = packed (wholeParts .positive n) := by
  have hword : n.toUInt64.toNat = n := by
    rw [Nat.toUInt64, UInt64.toNat_ofNat']
    omega
  have hconverted : n.toUInt64.toFloat = packed (wholeParts .positive n) := by
    have hparts : n.toUInt64.toFloat =
        packed (normalize .binary64 (n.toUInt64.toNat : Int) 0 .positive) := rfl
    rw [hparts, hword]
    cases n with
    | zero => rfl
    | succ n => exact congrArg packed (round_whole .positive (Nat.succ_ne_zero n) hn)
  have hfast : Float.ofNat n = n.toUInt64.toFloat * Float.ofBits 0x3FF0000000000000 := by
    have hscientific : Float.ofNat n = Float.ofScientific n false 0 := rfl
    rw [hscientific, Float.ofScientific, dif_pos ⟨hn, by decide⟩]
    rfl
  rw [hfast, hconverted, mul_one _ hn]

/-- A whole number of more than 53 bits is rounded. -/
theorem ofNat_large (h : 2 ^ 53 ≤ n) : Float.ofNat n =
    packed (roundWithAccuracy .binary64 .positive (n * 2 ^ 53) (-53) .exact) := by
  have hlarge : ¬ (n < 2 ^ 53 ∧ 0 ≤ 22) := by omega
  have hscientific : Float.ofNat n = Float.ofScientific n false 0 := rfl
  have hslow : Float.ofScientific n false 0 = packed (ofScientific .binary64 n 0) := by
    rw [Float.ofScientific, dif_neg hlarge]
    rfl
  have hpos : n ≠ 0 := by omega
  have hbits : (2 : Int) ^ Format.binary64.exponentBits = 2048 := rfl
  rw [hscientific, hslow, ofScientific, dif_neg hpos, if_neg (by decide), if_neg (by omega),
    if_pos (by decide), mul]
  have hmantissa : n <<< Format.binary64.mantissaBits * 10 ^ Int.toNat 0 = n * 2 ^ 53 := by
    rw [Nat.shiftLeft_eq]
    exact Nat.mul_one _
  have hexponent : -(Format.binary64.mantissaBits : Int) + 0 = -53 := rfl
  have hsign : Sign.positive * Sign.positive = .positive := rfl
  rw [hmantissa, hexponent, hsign]

/-- A mantissa of 53 bits and zeros after them is exactly a double. -/
theorem ofNat_mul_two_pow {m k : Nat} (h : Normal m k) (hk : 0 < k) :
    Float.ofNat (m * 2 ^ k) = packed (.finite .positive m k h.pos) := by
  have hlarge : 2 ^ 53 ≤ m * 2 ^ k := by
    have htwo : 2 ^ 1 ≤ 2 ^ k := Nat.pow_le_pow_right (by decide) hk
    exact (show 2 ^ 53 = 2 ^ 52 * 2 ^ 1 from rfl) ▸ Nat.mul_le_mul h.bounds.1 htwo
  rw [ofNat_large hlarge]
  refine congrArg packed (roundWithAccuracy_exact h (k := k + 53) ?_ (by omega) .positive)
  rw [Nat.pow_add, ← Nat.mul_assoc]

/-! ### Dividing by ten -/

private theorem unpacked_ten : unpacked (Float.ofNat 10) =
    .finite .positive (10 * 2 ^ 49) (-49) (by decide) :=
  rfl

/-- Ten times a number is a double if it has at most 54 bits. -/
private theorem exists_ofNat_ten_mul (h : n ≠ 0) (hn : 10 * n ≤ 2 ^ 54) :
    ∃ (m : Nat) (hm : Normal m (((10 * n).log2 : Int) - 52)),
      Float.ofNat (10 * n) = packed (.finite .positive m (((10 * n).log2 : Int) - 52) hm.pos) ∧
        m * 2 ^ 53 = 10 * 2 ^ 49 * (n * 2 ^ (56 - (10 * n).log2)) := by
  have hne : 10 * n ≠ 0 := by omega
  by_cases hsmall : 10 * n < 2 ^ 53
  · have hlog := log2_le hsmall
    refine ⟨_, normal_whole hne hsmall, ?_, ?_⟩
    · rw [ofNat_eq hsmall, wholeParts, dif_neg hne]
    · rw [show 56 - (10 * n).log2 = 52 - (10 * n).log2 + 4 by omega, Nat.pow_add]
      generalize 2 ^ (52 - (10 * n).log2) = p
      ring
  · have hlog : (10 * n).log2 = 53 := (Nat.log2_eq_iff hne).2 ⟨by omega, by omega⟩
    have hhalf : (5 * n).log2 = 52 := (Nat.log2_eq_iff (by omega)).2 ⟨by omega, by omega⟩
    have hnormal : Normal (5 * n) (1 : Nat) := ⟨hhalf, by decide, by decide⟩
    rw [hlog]
    refine ⟨5 * n, hnormal, ?_, ?_⟩
    · rw [← show 5 * n * 2 ^ 1 = 10 * n by omega]
      exact ofNat_mul_two_pow hnormal (by decide)
    · ring

/-- Ten times a number is divided by ten exactly. -/
theorem ofNat_ten_mul_div (hn : 10 * n ≤ 2 ^ 54) :
    Float.ofNat (10 * n) / Float.ofNat 10 = Float.ofNat n := by
  by_cases h : n = 0
  · subst h
    decide +kernel
  obtain ⟨m, hm, hten, hvalue⟩ := exists_ofNat_ten_mul h hn
  obtain ⟨hlow, hhigh⟩ := log2_mul_bounds (c := 10) (by decide) h
  rw [show (10 : Nat).log2 = 3 by decide] at hlow hhigh
  have hlog : (10 * n).log2 ≤ 53 := Nat.le_of_lt_succ ((Nat.log2_lt (by omega)).2 (by omega))
  have hcore : divCore .binary64 m (((10 * n).log2 : Int) - 52) (10 * 2 ^ 49) (-49) =
      (n * 2 ^ (56 - (10 * n).log2), ((10 * n).log2 : Int) - 56, .exact) := by
    have hten : (10 * 2 ^ 49).log2 = 52 := by decide +kernel
    have htarget : min (((10 * n).log2 : Int) - 52 - -49)
        (Format.binary64.targetExponent (totalExponent m (((10 * n).log2 : Int) - 52) -
          totalExponent (10 * 2 ^ 49) (-49))) = ((10 * n).log2 : Int) - 56 := by
      simp only [Format.targetExponent, totalExponent, Format.mantissaBits, Format.minExponent,
        hm.log2_eq, hten]
      omega
    have hshift : (((10 * n).log2 : Int) - 52 - -49 - (((10 * n).log2 : Int) - 56)).toNat = 53 := by
      omega
    rw [divCore, htarget, hshift, Nat.shiftLeft_eq, hvalue, Nat.mul_div_cancel_left _ (by decide),
      Nat.mul_mod_right]
    rfl
  rw [div_eq, hten, unpacked_packed_finite hm, unpacked_ten, div, hcore, ofNat_eq (by omega),
    wholeParts, dif_neg h]
  refine congrArg packed (roundWithAccuracy_exact (normal_whole h (by omega))
    (k := n.log2 + 4 - (10 * n).log2) ?_ ?_ .positive)
  · rw [Nat.mul_assoc, ← Nat.pow_add]
    congr 2
    omega
  · omega

/-! ### Signs -/

/-- The sign of a number. -/
def sign (negative : Bool) : Sign :=
  if negative then .negative else .positive

theorem ofWhole_eq (negative : Bool) (hn : n < 2 ^ 53) :
    ofWhole negative n = packed (wholeParts (sign negative) n) := by
  cases negative with
  | false => exact ofNat_eq hn
  | true =>
    have hneg : (wholeParts .positive n).neg = wholeParts .negative n := by
      rw [wholeParts, wholeParts]
      split <;> rfl
    have hwhole : ofWhole true n = -Float.ofNat n := rfl
    rw [hwhole, ofNat_eq hn, neg_eq, unpacked_packed_whole .positive hn, hneg]
    rfl

theorem ofInt_eq (z : Int) : Float.ofInt z = ofWhole (decide (z < 0)) z.natAbs := by
  cases z with
  | ofNat n => rfl
  | negSucc n =>
    rw [decide_eq_true (Int.negSucc_lt_zero n)]
    rfl

/-! ### Comparing -/

theorem lt_iff (x y : Float) : x < y ↔ (unpacked x).compare (unpacked y) = some .lt := by
  have hlt : (x < y) = (decide (x.toModel < y.toModel) = true) := rfl
  have hmodel : (x.toModel < y.toModel) =
      (((unpacked x).compare (unpacked y) == some .lt) = true) :=
    rfl
  rw [hlt, decide_eq_true_eq, hmodel, beq_iff_eq]

theorem beq_iff (x y : Float) : (x == y) = true ↔ (unpacked x).compare (unpacked y) = some .eq := by
  have hmodel : (x == y) = ((unpacked x).compare (unpacked y) == some .eq) := rfl
  rw [hmodel, beq_iff_eq]

/-- Mantissas of 53 bits are compared after their exponents. -/
private theorem compare_parts {a b : Nat} (ha : a ≠ 0) (hb : b ≠ 0) :
    (compare ((a.log2 : Int) - 52) ((b.log2 : Int) - 52)).then
      (compare (a * 2 ^ (52 - a.log2)) (b * 2 ^ (52 - b.log2))) = compare a b := by
  obtain ⟨halow, hahigh⟩ := (Nat.log2_eq_iff ha).1 rfl
  obtain ⟨hblow, hbhigh⟩ := (Nat.log2_eq_iff hb).1 rfl
  rcases Nat.lt_trichotomy a.log2 b.log2 with hlt | heq | hgt
  · have hpow : 2 ^ (a.log2 + 1) ≤ 2 ^ b.log2 := Nat.pow_le_pow_right (by decide) hlt
    rw [Int.compare_eq_lt.2 (by omega), Nat.compare_eq_lt.2 (show a < b by omega)]
    rfl
  · have hpow : 0 < 2 ^ (52 - b.log2) := Nat.two_pow_pos _
    rw [heq, Int.compare_eq_eq.2 rfl]
    rcases Nat.lt_trichotomy a b with hab | rfl | hab
    · rw [Nat.compare_eq_lt.2 (Nat.mul_lt_mul_of_pos_right hab hpow), Nat.compare_eq_lt.2 hab]
      rfl
    · rw [Nat.compare_eq_eq.2 rfl, Nat.compare_eq_eq.2 rfl]
      rfl
    · rw [Nat.compare_eq_gt.2 (Nat.mul_lt_mul_of_pos_right hab hpow), Nat.compare_eq_gt.2 hab]
      rfl
  · have hpow : 2 ^ (b.log2 + 1) ≤ 2 ^ a.log2 := Nat.pow_le_pow_right (by decide) hgt
    rw [Int.compare_eq_gt.2 (by omega), Nat.compare_eq_gt.2 (show b < a by omega)]
    rfl

/-- Numbers with parts that compare as their magnitudes compare with their signs. -/
private theorem compare_finite {m m' a b : Nat} {e e' : Int} {hm : 0 < m} {hm' : 0 < m'}
    (s t : Sign) (hb : b ≠ 0)
    (h : (compare e e').then (compare m m') = compare a b) :
    (finite s m e hm).compare (finite t m' e' hm') = some .lt ↔ s.apply a < t.apply b := by
  cases s with
  | negative =>
    cases t with
    | negative =>
      rw [UnpackedFloat.compare, h, Option.some_inj, Ordering.swap_eq_lt, Nat.compare_eq_gt]
      simp only [Sign.apply]
      omega
    | positive =>
      simp only [UnpackedFloat.compare, Sign.apply, true_iff]
      omega
  | positive =>
    cases t with
    | negative =>
      refine iff_of_false nofun ?_
      simp only [Sign.apply]
      omega
    | positive =>
      rw [UnpackedFloat.compare, h, Option.some_inj, Nat.compare_eq_lt]
      simp only [Sign.apply]
      omega

private theorem compare_zero_finite {m b : Nat} {e : Int} {hm : 0 < m} (s t : Sign) (hb : b ≠ 0) :
    (zero s).compare (finite t m e hm) = some .lt ↔ 0 < t.apply b := by
  cases t with
  | negative =>
    refine iff_of_false nofun ?_
    simp only [Sign.apply]
    omega
  | positive =>
    refine iff_of_true rfl ?_
    simp only [Sign.apply]
    omega

private theorem compare_finite_zero {m a : Nat} {e : Int} {hm : 0 < m} (s t : Sign) (ha : a ≠ 0) :
    (finite s m e hm).compare (zero t) = some .lt ↔ s.apply a < 0 := by
  cases s with
  | negative =>
    refine iff_of_true rfl ?_
    simp only [Sign.apply]
    omega
  | positive =>
    refine iff_of_false nofun ?_
    simp only [Sign.apply]
    omega

@[simp]
theorem apply_zero (s : Sign) : s.apply 0 = 0 := by
  cases s <;> rfl

/-- The parts of a whole number that is rounded: it stays below `2 ^ 53`, and from there on its
exponent is positive. -/
inductive Rounded (s : Sign) (n : Nat) : UnpackedFloat → Prop
  | exact (small : n < 2 ^ 53) : Rounded s n (wholeParts s n)
  | large {m : Nat} {e : Int} (normal : Normal m e) (large : 2 ^ 53 ≤ n) (exponent : 0 < e) :
      Rounded s n (.finite s m e normal.pos)

/-- A whole number below `2 ^ 53` is compared with a rounded one as with the one that was rounded. -/
theorem Rounded.compare_iff {s t : Sign} {a b : Nat} {u : UnpackedFloat} (h : Rounded t b u)
    (ha : a < 2 ^ 53) : (wholeParts s a).compare u = some .lt ↔ s.apply a < t.apply b := by
  cases h with
  | exact hb =>
    by_cases ha' : a = 0
    · by_cases hb' : b = 0
      · rw [wholeParts, dif_pos ha', wholeParts, dif_pos hb', ha', hb']
        exact iff_of_false nofun (by simp)
      · rw [wholeParts, dif_pos ha', wholeParts, dif_neg hb', ha', compare_zero_finite s t hb']
        simp
    · by_cases hb' : b = 0
      · rw [wholeParts, dif_neg ha', wholeParts, dif_pos hb', hb', compare_finite_zero s t ha']
        simp
      · rw [wholeParts, dif_neg ha', wholeParts, dif_neg hb']
        exact compare_finite s t hb' (compare_parts ha' hb')
  | large normal large exponent =>
    have hb' : b ≠ 0 := by omega
    by_cases ha' : a = 0
    · rw [wholeParts, dif_pos ha', ha', compare_zero_finite s t hb']
      simp
    · have hlog := log2_le ha
      rw [wholeParts, dif_neg ha']
      refine compare_finite s t hb' ?_
      rw [Int.compare_eq_lt.2 (by omega), Nat.compare_eq_lt.2 (show a < b by omega)]
      rfl

theorem unpacked_thousand :
    unpacked 1000.0 = .finite .positive (1000 * 2 ^ 43) (-43) (by decide) := by
  have hnat : (1000.0 : Float) = Float.ofNat 1000 := by decide +kernel
  rw [hnat]
  rfl

/-- A thousand times a whole number is rounded. -/
theorem rounded_thousand_mul (s : Sign) (hn : n < 2 ^ 53) :
    Rounded s (1000 * n) (unpacked (packed (wholeParts s n) * 1000.0)) := by
  have hsign : s * Sign.positive = s := by cases s <;> rfl
  rw [mul_eq, unpacked_packed_whole s hn, unpacked_thousand]
  by_cases h : n = 0
  · subst h
    have hzero : mul .binary64 (wholeParts s 0)
        (.finite .positive (1000 * 2 ^ 43) (-43) (by decide)) = wholeParts s 0 :=
      congrArg zero hsign
    rw [hzero, unpacked_packed_whole s (by decide)]
    exact .exact (by decide)
  · obtain ⟨hlow, hhigh⟩ := log2_mul_bounds (c := 1000) (by decide) h
    rw [show (1000 : Nat).log2 = 9 by decide] at hlow hhigh
    have hlog := log2_le hn
    rw [wholeParts, dif_neg h, mul, hsign]
    have hproduct : n * 2 ^ (52 - n.log2) * (1000 * 2 ^ 43) = 1000 * n * 2 ^ (95 - n.log2) := by
      rw [show 95 - n.log2 = 52 - n.log2 + 43 by omega, Nat.pow_add]
      generalize 2 ^ (52 - n.log2) = p
      ring
    rw [hproduct]
    by_cases hsmall : 1000 * n < 2 ^ 53
    · have hlog' := log2_le hsmall
      have hround : roundWithAccuracy .binary64 s (1000 * n * 2 ^ (95 - n.log2))
          ((n.log2 : Int) - 52 + -43) .exact = wholeParts s (1000 * n) := by
        rw [wholeParts, dif_neg (by omega)]
        refine roundWithAccuracy_exact (normal_whole (by omega) hsmall)
          (k := 43 + (1000 * n).log2 - n.log2) ?_ (by omega) s
        rw [Nat.mul_assoc (1000 * n), ← Nat.pow_add]
        congr 2
        omega
      rw [hround, unpacked_packed_whole s hsmall]
      exact .exact hsmall
    · have hlarge : 53 ≤ (1000 * n).log2 := (Nat.le_log2 (by omega)).2 (by omega)
      obtain ⟨m, c, hpos, hm, hc, hround⟩ := exists_roundWithAccuracy
        (m := 1000 * n * 2 ^ (95 - n.log2)) (e := (n.log2 : Int) - 52 + -43)
        (k := 43 + (1000 * n).log2 - n.log2)
        (by rw [log2_mul_two_pow (by omega)]; omega) (by omega) s
      have hnormal : Normal m ((n.log2 : Int) - 52 + -43 +
          (43 + (1000 * n).log2 - n.log2 : Nat) + c) := ⟨hm, by omega, by omega⟩
      rw [hround, unpacked_packed_finite hnormal]
      exact .large hnormal (by omega) (by omega)

theorem apply_sign (negative : Bool) (n : Nat) :
    (sign negative).apply n = Whole.signed negative n := by
  cases negative <;> rfl

theorem signed_natAbs (z : Int) : Whole.signed (decide (z < 0)) z.natAbs = z := by
  by_cases h : z < 0
  · rw [decide_eq_true h, Whole.signed, if_pos rfl]
    omega
  · rw [decide_eq_false h, Whole.signed, if_neg Bool.false_ne_true]
    omega

/-- A time in milliseconds is compared with a time in whole seconds as the integers are. -/
theorem ofInt_lt_thousand_mul {now : Int} (hnow : now.natAbs < 2 ^ 53) (negative : Bool)
    (hn : n < 2 ^ 53) :
    Float.ofInt now < ofWhole negative n * 1000.0 ↔ now < 1000 * Whole.signed negative n := by
  have hscaled : Whole.signed negative (1000 * n) = 1000 * Whole.signed negative n := by
    cases negative with
    | false => exact Int.natCast_mul 1000 n
    | true =>
      change -((1000 * n : Nat) : Int) = 1000 * -(n : Int)
      omega
  rw [ofInt_eq, ofWhole_eq _ hnow, ofWhole_eq _ hn, lt_iff, unpacked_packed_whole _ hnow,
    (rounded_thousand_mul _ hn).compare_iff hnow, apply_sign, apply_sign, signed_natAbs, hscaled]

/-! ### The parts of whole numbers -/

theorem beq_sign (negative : Bool) : (sign negative == .negative) = negative := by
  cases negative <;> rfl

/-- The parts of a whole number that is not zero. -/
theorem parts_ofWhole (negative : Bool) (h : n ≠ 0) (hn : n < 2 ^ 53) :
    Binary64.ofFloat (ofWhole negative n) =
      .finite negative (n * 2 ^ (52 - n.log2)) ((n.log2 : Int) - 52) := by
  rw [Binary64.ofFloat_eq, ofWhole_eq _ hn, unpacked_packed_whole _ hn, wholeParts, dif_neg h,
    Binary64.ofUnpacked, beq_sign]

theorem parts_ofWhole_zero (negative : Bool) :
    Binary64.ofFloat (ofWhole negative 0) = .finite negative 0 (-1074) := by
  cases negative <;> decide +kernel

private theorem ofBits_eq_finite {bits m : Nat} {negative : Bool} {e : Int}
    (h : Binary64.ofBits bits = .finite negative m e) :
    (bits / 2 ^ 63 % 2 = 1 ↔ negative = true) ∧
      (bits / 2 ^ 52 % 2 ^ 11 = 0 ∧ m = bits % 2 ^ 52 ∧ e = -1074 ∨
        bits / 2 ^ 52 % 2 ^ 11 ≠ 0 ∧ m = bits % 2 ^ 52 + 2 ^ 52 ∧
          e = ((bits / 2 ^ 52 % 2 ^ 11 : Nat) : Int) - 1075) := by
  simp only [Binary64.ofBits, Nat.pow_eq] at h
  split at h
  case isTrue => split at h <;> cases h
  case isFalse =>
    split at h
    case isTrue hfirst =>
      cases h
      exact ⟨beq_iff_eq.symm, .inl ⟨hfirst, rfl, rfl⟩⟩
    case isFalse hfirst =>
      cases h
      exact ⟨beq_iff_eq.symm, .inr ⟨hfirst, rfl, rfl⟩⟩

/-- A double that is finite is known by its parts. -/
theorem eq_of_parts {x y : Float} {negative : Bool} {m : Nat} {e : Int}
    (hx : Binary64.ofFloat x = .finite negative m e)
    (hy : Binary64.ofFloat y = .finite negative m e) : x = y := by
  obtain ⟨hxsign, hxparts⟩ := ofBits_eq_finite hx
  obtain ⟨hysign, hyparts⟩ := ofBits_eq_finite hy
  have hsign := hxsign.trans hysign.symm
  have := x.toBits.toNat_lt
  have := y.toBits.toNat_lt
  refine Float.toBits_inj.1 (UInt64.toNat_inj.1 ?_)
  omega

/-- Finite doubles other than the smallest ones have 53 bits. -/
theorem range_of_parts {x : Float} {negative : Bool} {m : Nat} {e : Int}
    (hx : Binary64.ofFloat x = .finite negative m e) :
    m < 2 ^ 52 ∧ e = -1074 ∨ 2 ^ 52 ≤ m ∧ m < 2 ^ 53 := by
  obtain ⟨-, hparts⟩ := ofBits_eq_finite hx
  omega

/-- A whole number has the parts of its magnitude. -/
private theorem parts_of_magnitude {x : Float} {negative : Bool} {m : Nat} {e : Int}
    (hx : Binary64.ofFloat x = .finite negative m e)
    (hwhole : (Binary64.finite negative m e).isWhole = true) (hmagnitude : Whole.magnitude m e = n)
    (hn : n < 2 ^ 53) :
    Binary64.ofFloat (ofWhole negative n) = .finite negative m e := by
  have hrange := range_of_parts hx
  cases e with
  | ofNat e =>
    obtain ⟨hlow, hhigh⟩ : 2 ^ 52 ≤ m ∧ m < 2 ^ 53 := by
      refine hrange.resolve_left ?_
      rintro ⟨-, h⟩
      cases h
    -- the mantissa has all its bits, and so none can stand before it
    have he : e = 0 := by
      by_contra hne
      have htwo : 2 ^ 1 ≤ 2 ^ e := Nat.pow_le_pow_right (by decide) (Nat.pos_of_ne_zero hne)
      have hproduct : 2 ^ 52 * 2 ^ 1 ≤ m * 2 ^ e := Nat.mul_le_mul hlow htwo
      have hvalue : m * 2 ^ e = n := hmagnitude
      omega
    subst he
    have hvalue : m = n := (Nat.mul_one m).symm.trans hmagnitude
    subst hvalue
    have hlog : m.log2 = 52 := (Nat.log2_eq_iff (by omega)).2 ⟨hlow, hhigh⟩
    rw [parts_ofWhole negative (by omega) hn, hlog, Nat.sub_self, Nat.pow_zero, Nat.mul_one]
    rfl
  | negSucc e =>
    have hvalue : m = n * 2 ^ (e + 1) := by
      have hrest : m % 2 ^ (e + 1) = 0 := beq_iff_eq.1 hwhole
      have hquotient : m / 2 ^ (e + 1) = n := hmagnitude
      have hdivision := Nat.div_add_mod m (2 ^ (e + 1))
      rw [hrest, hquotient, Nat.add_zero, Nat.mul_comm] at hdivision
      exact hdivision.symm
    by_cases h : n = 0
    · subst h
      rw [Nat.zero_mul] at hvalue
      subst hvalue
      obtain ⟨-, he⟩ := hrange.resolve_right (by omega)
      rw [he]
      exact parts_ofWhole_zero negative
    · have hpos : 0 < m := hvalue ▸ Nat.mul_pos (Nat.pos_of_ne_zero h) (Nat.two_pow_pos _)
      have hlog : m.log2 = n.log2 + (e + 1) := by rw [hvalue, log2_mul_two_pow h]
      obtain ⟨hlow, hhigh⟩ : 2 ^ 52 ≤ m ∧ m < 2 ^ 53 := by
        refine hrange.resolve_left ?_
        rintro ⟨hsmall, he⟩
        have hbits := (Nat.log2_lt (Nat.ne_of_gt hpos)).2 hsmall
        omega
      have hfull : m.log2 = 52 := (Nat.log2_eq_iff (Nat.ne_of_gt hpos)).2 ⟨hlow, hhigh⟩
      rw [parts_ofWhole negative h hn, show 52 - n.log2 = e + 1 by omega, ← hvalue,
        show (n.log2 : Int) - 52 = Int.negSucc e by omega]

theorem isFinite_iff (x : Float) :
    x.isFinite = true ↔ ∃ negative m e, Binary64.ofFloat x = .finite negative m e := by
  have hmodel : x.isFinite = (unpacked x).isFinite := rfl
  rw [hmodel, Binary64.ofFloat_eq]
  cases unpacked x with
  | notANumber => exact iff_of_false nofun nofun
  | infinity s => exact iff_of_false nofun nofun
  | zero s => exact iff_of_true rfl ⟨_, _, _, rfl⟩
  | finite s m e hm => exact iff_of_true rfl ⟨_, _, _, rfl⟩

/-- A double that is a whole number is finite. -/
theorem exists_parts_of_isWhole {x : Float} (h : isWhole x = true) :
    ∃ negative m e, Binary64.ofFloat x = .finite negative m e ∧
      (Binary64.finite negative m e).isWhole = true := by
  rw [isWhole] at h
  cases hx : Binary64.ofFloat x with
  | finite negative m e => exact ⟨negative, m, e, rfl, hx ▸ h⟩
  | _ =>
    rw [hx] at h
    cases h

theorem isFinite_of_isWhole {x : Float} (h : isWhole x = true) : x.isFinite = true := by
  obtain ⟨negative, m, e, hx, -⟩ := exists_parts_of_isWhole h
  exact (isFinite_iff x).2 ⟨negative, m, e, hx⟩

/-- A double that is a whole number below `2 ^ 53` is the double of this number. -/
theorem eq_ofWhole {x : Float} {z : Int} (hwhole : isWhole x = true)
    (hz : Whole.ofFloat x = .int z) (hsmall : z.natAbs < 2 ^ 53) :
    ∃ negative, x = ofWhole negative z.natAbs ∧ Whole.signed negative z.natAbs = z := by
  obtain ⟨negative, m, e, hx, hwhole⟩ := exists_parts_of_isWhole hwhole
  rw [Whole.ofFloat, hx] at hz
  have hsigned : Whole.signed negative (Whole.magnitude m e) = z := Whole.int.inj hz
  have hmagnitude : Whole.magnitude m e = z.natAbs := by
    rw [← hsigned]
    cases negative with
    | false => exact (Int.natAbs_natCast _).symm
    | true => exact ((Int.natAbs_neg _).trans (Int.natAbs_natCast _)).symm
  exact ⟨negative, eq_of_parts hx (parts_of_magnitude hx hwhole hmagnitude hsmall),
    hmagnitude ▸ hsigned⟩

end Double
end WebRecipe
