import WebRecipe.Proofs.Number.Digits

/-!
# Natural numbers as doubles

Positions and lengths are natural numbers that are held by doubles. The double of a natural number has
a positive sign, however the number is rounded, and so it is never the `-1` that stands for a position
that was not found. Below `2 ^ 53` it has the number as its integer part, and sums are exact.

## Main results

* `Double.ofNat_bne_neg_one`: the double of a natural number is not `-1`.
* `Double.ofFloat_ofNat`: the integer part of the double of a natural number.
* `Double.ofNat_add`: sums of natural numbers.
* `Double.toNat_toUInt64`: the word that a double is cast to.
* `Double.exists_natural`: a finite double that is not below zero has a natural number as its integer
  part.
* `Double.ofFloat_add`, `Double.le_clamp_add`: sums of doubles that are natural numbers.
-/

namespace WebRecipe

open Float.Model (Format UnpackedFloat totalExponent)
open Float.Model.UnpackedFloat

namespace Double

/-! ### Signs -/

/-- What is put together of a positive sign keeps it, and does not equal a negative number. -/
theorem compare_unpacked_packed_ne {m m' : Nat} {e e' : Int} (hm : 0 < m) (hm' : 0 < m') :
    (unpacked (packed (.finite .positive m e hm))).compare (.finite .negative m' e' hm') ≠
      some .eq := by
  have hsame : unpacked (packed (.finite .positive m e hm)) =
      unpack .binary64 (pack .binary64 (.finite .positive m e hm)) := rfl
  have hsign : Sign.ofBitVec (unpackSign (pack .binary64 (.finite .positive m e hm))) =
      .positive := by
    rw [pack]
    split
    case isTrue =>
      rw [packedInfinity, unpackSign_packComponents]
      rfl
    case isFalse => split <;> rw [unpackSign_packComponents] <;> rfl
  rw [hsame, unpack]
  simp only [hsign]
  split
  · split <;> nofun
  · split
    · split <;> nofun
    · nofun

theorem exists_ofNat_eq (n : Nat) : Float.ofNat n = packed (.zero .positive) ∨
    ∃ m e hm, Float.ofNat n = packed (.finite .positive m e hm) := by
  by_cases hn : n < 2 ^ 53
  · rw [ofNat_eq hn, wholeParts]
    split
    case isTrue => exact .inl rfl
    case isFalse h => exact .inr ⟨_, _, (normal_whole h hn).pos, rfl⟩
  · have hlog : (n * 2 ^ 53).log2 = 52 + (n.log2 + 1) := by
      rw [log2_mul_two_pow (by omega)]
      omega
    obtain ⟨m, c, hpos, -, -, hround⟩ :=
      exists_roundWithAccuracy (e := -53) hlog (by omega) .positive
    rw [ofNat_large (Nat.le_of_not_lt hn), hround]
    exact .inr ⟨m, _, hpos, rfl⟩

/-- The double of a natural number is not `-1`. -/
theorem ofNat_bne_neg_one (n : Nat) : (Float.ofNat n != -1) = true := by
  have hminus : unpacked (-1) = .finite .negative (2 ^ 52) (-52) (by decide) := by rfl
  rw [bne, Bool.not_eq_true', ← Bool.not_eq_true, beq_iff, hminus]
  obtain hn | ⟨m, e, hm, hn⟩ := exists_ofNat_eq n
  · rw [hn, unpacked_packed_zero]
    nofun
  · rw [hn]
    exact compare_unpacked_packed_ne hm (by decide)

theorem ofNat_ne_neg_one (n : Nat) : Float.ofNat n ≠ -1 := by
  intro h
  have hne := ofNat_bne_neg_one n
  rw [h] at hne
  exact absurd hne (by decide +kernel)

/-! ### Values -/

/-- The integer part of the double of a natural number. -/
theorem ofFloat_ofNat {n : Nat} (hn : n < 2 ^ 53) : Whole.ofFloat (Float.ofNat n) = .int n :=
  (isWhole_ofWhole false hn).2

/-- The parts of an integer. -/
def intParts (z : Int) : UnpackedFloat :=
  wholeParts (sign (decide (z < 0))) z.natAbs

theorem ofInt_eq_packed {z : Int} (hz : z.natAbs < 2 ^ 53) : Float.ofInt z = packed (intParts z) := by
  rw [ofInt_eq, ofWhole_eq _ hz, intParts]

/-- An integer that is written with a smaller exponent is put to 53 bits. -/
private theorem normalize_mul_two_pow {z : Int} (hz : z.natAbs < 2 ^ 53) (j : Nat) :
    UnpackedFloat.normalize .binary64 (z * (2 ^ j : Nat)) (-(j : Int)) .positive = intParts z := by
  have hpow : (0 : Int) < (2 ^ j : Nat) := Int.natCast_pos.2 (Nat.two_pow_pos j)
  rcases Int.lt_trichotomy z 0 with hneg | rfl | hpos
  · have habs : (-(z * (2 ^ j : Nat))).toNat = z.natAbs * 2 ^ j := by
      rw [← Int.neg_mul, ← Int.ofNat_natAbs_of_nonpos (Int.le_of_lt hneg)]
      exact Int.toNat_natCast _
    rw [UnpackedFloat.normalize, Int.compare_eq_lt.2 (Int.mul_neg_of_neg_of_pos hneg hpow), intParts,
      decide_eq_true hneg, habs]
    exact round_mul_two_pow .negative (by omega) hz j
  · rw [Int.zero_mul]
    rfl
  · have habs : (z * (2 ^ j : Nat)).toNat = z.natAbs * 2 ^ j := by
      rw [← Int.natAbs_of_nonneg (Int.le_of_lt hpos)]
      exact Int.toNat_natCast _
    rw [UnpackedFloat.normalize, Int.compare_eq_gt.2 (Int.mul_pos hpos hpow), intParts,
      decide_eq_false (by omega), habs]
    exact round_mul_two_pow .positive (by omega) hz j

private theorem zero_add_intParts (z : Int) :
    add .binary64 (intParts 0) (intParts z) = intParts z ∧
      add .binary64 (intParts z) (intParts 0) = intParts z := by
  by_cases hz : z.natAbs = 0
  · obtain rfl : z = 0 := Int.natAbs_eq_zero.1 hz
    exact ⟨rfl, rfl⟩
  · have hzero : intParts 0 = .zero .positive := rfl
    rw [hzero, intParts, wholeParts, dif_neg hz]
    exact ⟨rfl, rfl⟩

/-- An integer is its sign applied to its magnitude, also when both are multiplied. -/
private theorem apply_sign_mul (z : Int) (k : Nat) :
    (sign (decide (z < 0))).apply (z.natAbs * k : Nat) = z * k := by
  by_cases hneg : z < 0
  · rw [decide_eq_true hneg]
    change -((z.natAbs * k : Nat) : Int) = z * k
    rw [Int.natCast_mul, Int.ofNat_natAbs_of_nonpos (Int.le_of_lt hneg), Int.neg_mul, Int.neg_neg]
  · rw [decide_eq_false hneg]
    change ((z.natAbs * k : Nat) : Int) = z * k
    rw [Int.natCast_mul, Int.natAbs_of_nonneg (Int.not_lt.1 hneg)]

/-- The sum of integers is exact as long as it is below `2 ^ 53` in magnitude. -/
theorem ofInt_add {a b : Int} (ha : a.natAbs < 2 ^ 53) (hb : b.natAbs < 2 ^ 53)
    (h : (a + b).natAbs < 2 ^ 53) : Float.ofInt a + Float.ofInt b = Float.ofInt (a + b) := by
  have hunpacked {z : Int} (hz : z.natAbs < 2 ^ 53) : unpacked (packed (intParts z)) = intParts z :=
    unpacked_packed_whole _ hz
  rw [ofInt_eq_packed ha, ofInt_eq_packed hb, ofInt_eq_packed h, add_eq, hunpacked ha, hunpacked hb]
  refine congrArg packed ?_
  by_cases ha0 : a.natAbs = 0
  · obtain rfl : a = 0 := Int.natAbs_eq_zero.1 ha0
    rw [Int.zero_add, (zero_add_intParts b).1]
  by_cases hb0 : b.natAbs = 0
  · obtain rfl : b = 0 := Int.natAbs_eq_zero.1 hb0
    rw [Int.add_zero, (zero_add_intParts a).2]
  -- both mantissas are shifted to the exponent of the smaller number
  have ha' := log2_le ha
  have hb' := log2_le hb
  obtain ⟨j, hj⟩ : ∃ j : Nat,
      min ((a.natAbs.log2 : Int) - 52) ((b.natAbs.log2 : Int) - 52) = -(j : Int) :=
    ⟨52 - min a.natAbs.log2 b.natAbs.log2, by omega⟩
  have hshifted {c : Nat} (hc : c.log2 ≤ 52) (hcj : 52 - c.log2 ≤ j) :
      c * 2 ^ (52 - c.log2) * 2 ^ ((c.log2 : Int) - 52 - -(j : Int)).toNat = c * 2 ^ j := by
    rw [Nat.mul_assoc, ← Nat.pow_add]
    congr 2
    omega
  rw [← normalize_mul_two_pow h j, Int.add_mul, ← apply_sign_mul a, ← apply_sign_mul b, intParts,
    intParts, wholeParts, wholeParts, dif_neg ha0, dif_neg hb0, add]
  simp only [decreaseExponent, Nat.shiftLeft_eq, hj]
  rw [hshifted ha' (by omega), hshifted hb' (by omega)]

/-- The sum of natural numbers is exact as long as it is below `2 ^ 53`. -/
theorem ofNat_add {a b : Nat} (h : a + b < 2 ^ 53) :
    Float.ofNat a + Float.ofNat b = Float.ofNat (a + b) :=
  ofInt_add (a := a) (b := b) (by omega) (by omega) (by omega)

/-! ### Words -/

theorem toNat_ofNatClamp (n : Nat) :
    (UInt64.ofNatClamp n).toNat = min n (2 ^ 64 - 1) := by
  have hsize : UInt64.size = 2 ^ 64 := rfl
  rw [UInt64.ofNatClamp]
  split
  case isTrue h =>
    rw [UInt64.toNat_ofNatLT]
    omega
  case isFalse h =>
    rw [UInt64.toNat_ofNatLT]
    omega

/-- A double without the digits after its point is its integer part. -/
private theorem roundToInt_eq (s : Sign) (m : Nat) (e : Int) :
    roundToInt s m e = s.apply (Whole.magnitude m e) := by
  cases e with
  | ofNat e =>
    have hdecrease : decreaseExponent m (.ofNat e) 0 = (m * 2 ^ e, 0) := by
      simp [decreaseExponent, Nat.shiftLeft_eq]
    rw [roundToInt, hdecrease]
    rfl
  | negSucc e =>
    have hdecrease : decreaseExponent m (.negSucc e) 0 = (m, .negSucc e) := by
      simp [decreaseExponent]
    have hshift : (0 - Int.negSucc e).toNat = e + 1 := by omega
    have hround : roundToInt s m (.negSucc e) =
        s.apply ((⟨m, false, false⟩ : ExtendedMantissa) >>> (e + 1)).mantissa := by
      rw [roundToInt, hdecrease]
      simp only [shiftToExponent, hshift]
      rfl
    rw [hround, mantissa_shiftRight]
    rfl

/-- A double is cast to the word nearest to its integer part. -/
theorem toNat_toUInt64 (x : Float) :
    x.toUInt64.toNat = (Whole.ofFloat x).clamp (2 ^ 64 - 1) := by
  have hcast : x.toUInt64 = UInt64.ofNatClamp ((unpacked x).toInt 0 (2 ^ 64 - 1)).toNat := rfl
  rw [hcast, toNat_ofNatClamp, Whole.ofFloat, Binary64.ofFloat_eq]
  cases unpacked x with
  | notANumber => rfl
  | infinity s => cases s <;> rfl
  | zero s =>
    rw [Binary64.ofUnpacked, Whole.ofBinary64, magnitude_zero, signed_zero]
    rfl
  | finite s m e hm =>
    rw [toInt, roundToInt_eq]
    cases s <;> rfl

/-- A finite double is below zero when it has a negative sign and is not zero. -/
theorem lt_zero_iff {x : Float} {negative : Bool} {m : Nat} {e : Int}
    (hx : Binary64.ofFloat x = .finite negative m e) :
    x < 0 ↔ (negative && m != 0) = true := by
  have hzero : unpacked 0 = .zero .positive := rfl
  rw [Binary64.ofFloat_eq] at hx
  rw [lt_iff, hzero]
  cases hparts : unpacked x with
  | notANumber =>
    rw [hparts] at hx
    cases hx
  | infinity s =>
    rw [hparts] at hx
    cases hx
  | zero s =>
    rw [hparts] at hx
    cases hx
    exact iff_of_false nofun (by rw [bne_self_eq_false, Bool.and_false]; decide)
  | finite s m e hm =>
    rw [hparts] at hx
    cases hx
    rw [bne_iff_ne.2 (Nat.ne_of_gt hm), Bool.and_true]
    cases s with
    | negative => exact iff_of_true rfl rfl
    | positive => exact iff_of_false nofun nofun

/-- A double that is not below zero is infinite, a zero, or has a positive sign. -/
theorem unpacked_of_nonneg {x : Float} (h : 0 ≤ x) : unpacked x = .infinity .positive ∨
    (∃ s, unpacked x = .zero s) ∨ ∃ m e hm, unpacked x = .finite .positive m e hm := by
  have hle : (0 ≤ x) = (decide ((0 : Float).toModel ≤ x.toModel) = true) := rfl
  have hmodel : ((0 : Float).toModel ≤ x.toModel) =
      (((UnpackedFloat.zero .positive).compare (unpacked x)).any (·.isLE) = true) := rfl
  rw [hle, decide_eq_true_eq, hmodel] at h
  cases hx : unpacked x with
  | notANumber =>
    rw [hx] at h
    cases h
  | infinity s =>
    rw [hx] at h
    cases s with
    | negative => cases h
    | positive => exact .inl rfl
  | zero s => exact .inr (.inl ⟨s, rfl⟩)
  | finite s m e hm =>
    rw [hx] at h
    cases s with
    | negative => cases h
    | positive => exact .inr (.inr ⟨m, e, hm, rfl⟩)

/-- A finite double that is not below zero has a positive sign, or is zero. -/
theorem exists_parts_of_nonneg {x : Float} (hnonneg : 0 ≤ x) (hfinite : x.isFinite = true) :
    ∃ negative m e, Binary64.ofFloat x = .finite negative m e ∧ (negative && m != 0) = false := by
  change (unpacked x).isFinite = true at hfinite
  rw [Binary64.ofFloat_eq]
  rcases unpacked_of_nonneg hnonneg with hx | ⟨s, hx⟩ | ⟨m, e, hm, hx⟩
  · rw [hx] at hfinite
    cases hfinite
  · rw [hx]
    exact ⟨_, _, _, rfl, Bool.and_false _⟩
  · rw [hx]
    exact ⟨_, _, _, rfl, rfl⟩

/-- A number that is not below zero has its magnitude as its integer part. -/
theorem ofFloat_of_parts {x : Float} {negative : Bool} {m : Nat} {e : Int}
    (hparts : Binary64.ofFloat x = .finite negative m e) (hsign : (negative && m != 0) = false) :
    Whole.ofFloat x = .int (Whole.magnitude m e) := by
  rw [Whole.ofFloat, hparts, Whole.ofBinary64]
  cases negative with
  | false => rfl
  | true =>
    obtain rfl : m = 0 := by simpa using hsign
    rw [magnitude_zero]
    rfl

/-- The integer part of a finite double that is not below zero is a natural number. -/
theorem exists_natural {x : Float} (hnonneg : 0 ≤ x) (hfinite : x.isFinite = true) :
    ∃ n : Nat, Whole.ofFloat x = .int n := by
  obtain ⟨negative, m, e, hparts, hsign⟩ := exists_parts_of_nonneg hnonneg hfinite
  exact ⟨_, ofFloat_of_parts hparts hsign⟩

/-! ### Sums of any size

A natural number that is a double may have more than 53 bits, and then zeros follow the first 53. A
sum is exact below `2 ^ 53`. From there on it is rounded, or infinite, but it does not fall below
`2 ^ 53`. -/

/-- Adding a negative zero changes nothing. -/
theorem negativeZero_add {n : Nat} (hn : n < 2 ^ 53) :
    ofWhole true 0 + Float.ofNat n = Float.ofNat n ∧
      Float.ofNat n + ofWhole true 0 = Float.ofNat n := by
  have hzero : unpacked (ofWhole true 0) = .zero .negative := rfl
  rw [ofNat_eq hn, add_eq, add_eq, hzero, unpacked_packed_whole _ hn, wholeParts]
  split
  · exact ⟨rfl, rfl⟩
  · exact ⟨rfl, rfl⟩

/-- A double that is a natural number below `2 ^ 53` is the double of it, or the negative zero. -/
theorem eq_ofNat_or {x : Float} {n : Nat} (hwhole : isWhole x = true)
    (hn : Whole.ofFloat x = .int n) (hsmall : n < 2 ^ 53) :
    x = Float.ofNat n ∨ n = 0 ∧ x = ofWhole true 0 := by
  obtain ⟨negative, hx, hsigned⟩ := eq_ofWhole hwhole hn hsmall
  rw [Int.natAbs_natCast] at hx hsigned
  cases negative with
  | false => exact .inl hx
  | true =>
    have hzero : n = 0 := by
      change -(n : Int) = n at hsigned
      omega
    exact .inr ⟨hzero, hzero ▸ hx⟩

/-- The sum of natural numbers below `2 ^ 53` is exact. -/
theorem ofFloat_add {x y : Float} {a b : Nat} (hwx : isWhole x = true)
    (ha : Whole.ofFloat x = .int a) (hwy : isWhole y = true) (hb : Whole.ofFloat y = .int b)
    (h : a + b < 2 ^ 53) : Whole.ofFloat (x + y) = .int (a + b : Nat) := by
  rcases eq_ofNat_or hwx ha (by omega) with rfl | ⟨rfl, rfl⟩ <;>
    rcases eq_ofNat_or hwy hb (by omega) with rfl | ⟨rfl, rfl⟩
  · rw [ofNat_add h, ofFloat_ofNat h]
  · rw [(negativeZero_add (by omega)).2, ha, Nat.add_zero]
  · rw [(negativeZero_add (by omega)).1, hb, Nat.zero_add]
  · have hzero : ofWhole true 0 + ofWhole true 0 = ofWhole true 0 := rfl
    rw [hzero, ha]

/-- Where no digits follow the point, mantissa and magnitude can be shifted by as much. -/
theorem mul_two_pow_eq_magnitude {negative : Bool} {m : Nat} {e : Int} {j : Nat}
    (hwhole : (Binary64.finite negative m e).isWhole = true) (hj : 0 ≤ e + j) :
    m * 2 ^ (e + j).toNat = Whole.magnitude m e * 2 ^ j := by
  cases e with
  | ofNat e =>
    have hexponent : (Int.ofNat e + j).toNat = e + j := Int.toNat_natCast (e + j)
    rw [hexponent, Nat.pow_add, ← Nat.mul_assoc]
    rfl
  | negSucc e =>
    have hrest : m % 2 ^ (e + 1) = 0 := beq_iff_eq.1 hwhole
    obtain ⟨i, rfl⟩ : ∃ i, j = e + 1 + i := ⟨j - (e + 1), by omega⟩
    have hexponent : (Int.negSucc e + (e + 1 + i : Nat)).toNat = i := by omega
    have hquotient : m / 2 ^ (e + 1) * 2 ^ (e + 1) = m :=
      Nat.div_mul_cancel (Nat.dvd_of_mod_eq_zero hrest)
    rw [hexponent, Nat.pow_add, ← Nat.mul_assoc]
    exact congrArg (· * 2 ^ i) hquotient.symm

/-- A double that is a natural number is a zero, or a mantissa of 53 bits which gives the number. -/
theorem unpacked_of_natural {x : Float} {n : Nat} (hnonneg : 0 ≤ x) (hwhole : isWhole x = true)
    (hn : Whole.ofFloat x = .int n) : n = 0 ∧ (∃ s, unpacked x = .zero s) ∨
      ∃ m e hm, unpacked x = .finite .positive m e hm ∧ m.log2 = 52 ∧
        ∀ j : Nat, 0 ≤ e + j → m * 2 ^ (e + j).toNat = n * 2 ^ j := by
  rw [Whole.ofFloat, Binary64.ofFloat_eq] at hn
  rw [isWhole, Binary64.ofFloat_eq] at hwhole
  have hrange {m : Nat} {e : Int} (hx : Binary64.ofUnpacked (unpacked x) = .finite false m e) :=
    range_of_parts ((Binary64.ofFloat_eq x).trans hx)
  rcases unpacked_of_nonneg hnonneg with hx | ⟨s, hx⟩ | ⟨m, e, hm, hx⟩
  · rw [hx] at hwhole
    cases hwhole
  · rw [hx, Binary64.ofUnpacked, Whole.ofBinary64, magnitude_zero, signed_zero] at hn
    exact .inl ⟨Int.natCast_eq_zero.1 (Whole.int.inj hn).symm, s, hx⟩
  · rw [hx] at hwhole hn hrange
    have hmagnitude : Whole.magnitude m e = n := Int.ofNat_inj.1 (Whole.int.inj hn)
    have hscaled (j : Nat) (hj : 0 ≤ e + j) : m * 2 ^ (e + j).toNat = n * 2 ^ j := by
      rw [mul_two_pow_eq_magnitude hwhole hj, hmagnitude]
    refine .inr ⟨m, e, hm, hx, ?_, hscaled⟩
    obtain ⟨hsmall, rfl⟩ | hbounds := hrange rfl
    · -- all bits of the smallest doubles are digits after the point
      obtain ⟨j, hj⟩ : ∃ j : Nat, j = 1074 := ⟨_, rfl⟩
      have hshifted := hscaled j (by omega)
      rw [show ((-1074 : Int) + j).toNat = 0 by omega, Nat.pow_zero, Nat.mul_one] at hshifted
      have hpos : 0 < n := Nat.pos_of_ne_zero fun hzero ↦ by
        rw [hzero, Nat.zero_mul] at hshifted
        exact Nat.ne_of_gt hm hshifted
      have hlarge : 2 ^ 52 ≤ n * 2 ^ j :=
        (Nat.pow_le_pow_right (by decide) (by omega)).trans (Nat.le_mul_of_pos_left _ hpos)
      exact absurd (hshifted ▸ hsmall) (Nat.not_lt_of_le hlarge)
    · exact (Nat.log2_eq_iff (Nat.ne_of_gt hm)).2 hbounds

/-- A number from `2 ^ 53` on is rounded to 53 bits and zeros after them. -/
theorem exists_round {m : Nat} {e : Int} (hm : 52 ≤ m.log2) (hlarge : 53 ≤ e + m.log2) :
    ∃ n e' hn, n.log2 = 52 ∧ 1 ≤ e' ∧
      UnpackedFloat.round .binary64 .positive m e = .finite .positive n e' hn := by
  obtain ⟨k, hk⟩ : ∃ k, m.log2 = 52 + k := ⟨m.log2 - 52, by omega⟩
  obtain ⟨n, c, hn, hlog, -, hround⟩ := exists_roundWithAccuracy hk (e := e) (by omega) .positive
  have htarget : e ≤ Format.binary64.targetExponent (totalExponent m e) := by
    simp only [Format.targetExponent, totalExponent, Format.mantissaBits, Format.minExponent]
    omega
  have hshift : (e - Format.binary64.targetExponent (totalExponent m e)).toNat = 0 := by omega
  refine ⟨n, e + k + c, hn, hlog, by omega, ?_⟩
  rw [UnpackedFloat.round, decreaseExponent, hshift, Nat.shiftLeft_zero, ← hround]
  simp

/-- What is put together of 53 bits and zeros after them is at least `2 ^ 53`, and infinite where it
is too large for a double. -/
theorem le_clamp_packed {m limit : Nat} {e : Int} (hm : 0 < m) (hlog : m.log2 = 52) (he : 1 ≤ e)
    (hlimit : 2 ^ 53 ≤ limit) :
    2 ^ 53 ≤ (Whole.ofFloat (packed (.finite .positive m e hm))).clamp limit := by
  rw [Whole.ofFloat, Binary64.ofFloat_eq]
  by_cases hhigh : e ≤ 971
  · have hnormal : Normal m e := ⟨hlog, by omega, hhigh⟩
    rw [unpacked_packed_finite hnormal]
    obtain ⟨k, rfl⟩ : ∃ k : Nat, e = (k + 1 : Nat) := ⟨(e - 1).toNat, by omega⟩
    have hmagnitude : 2 ^ 53 ≤ Whole.magnitude m ((k + 1 : Nat) : Int) := by
      have htwo : 2 ^ 1 ≤ 2 ^ (k + 1) := Nat.pow_le_pow_right (by decide) (by omega)
      exact (show 2 ^ 53 = 2 ^ 52 * 2 ^ 1 from rfl) ▸ Nat.mul_le_mul hnormal.bounds.1 htwo
    exact Nat.le_min.2 ⟨hmagnitude, hlimit⟩
  · have hbiased : 2 ^ Format.binary64.exponentBits ≤ (e + (Format.binary64.exponentBias : Int) +
        (Format.binary64.mantissaBitsWithoutImplicit : Int)).toNat + 1 := by
      change 2 ^ 11 ≤ (e + 1023 + 52).toNat + 1
      omega
    have hpack : pack .binary64 (.finite .positive m e hm) =
        packedInfinity .binary64 .positive := by
      rw [pack, if_pos hbiased]
    have hpacked : packed (.finite .positive m e hm) = packed (.infinity .positive) := by
      simp only [packed, Float.Model.pack, hpack]
      rfl
    rw [hpacked]
    exact hlimit

/-- Numbers with positive signs are added with the smaller one of their exponents. -/
theorem add_positive {m m' : Nat} {e e' low : Int} (hm : 0 < m) (hm' : 0 < m')
    (hlow : min e e' = low) :
    add .binary64 (.finite .positive m e hm) (.finite .positive m' e' hm') =
      UnpackedFloat.round .binary64 .positive
        (m * 2 ^ (e - low).toNat + m' * 2 ^ (e' - low).toNat) low := by
  have hpos : 0 < m * 2 ^ (e - low).toNat + m' * 2 ^ (e' - low).toNat :=
    Nat.add_pos_left (Nat.mul_pos hm (Nat.two_pow_pos _)) _
  rw [add]
  simp only [decreaseExponent, Nat.shiftLeft_eq, hlow]
  rw [UnpackedFloat.normalize]
  simp only [Sign.apply]
  rw [← Int.natCast_add, Int.compare_eq_gt.2 (Int.natCast_pos.2 hpos)]
  rfl

/-- Where 53 bits give a number from `2 ^ 53` on, zeros follow them. -/
theorem one_le_exponent {m n : Nat} {e : Int} (hlog : m.log2 = 52)
    (hscaled : ∀ j : Nat, 0 ≤ e + j → m * 2 ^ (e + j).toNat = n * 2 ^ j) (hn : 2 ^ 53 ≤ n) :
    1 ≤ e := by
  by_contra he
  have hshifted := hscaled (-e).toNat (by omega)
  rw [show (e + (-e).toNat).toNat = 0 by omega, Nat.pow_zero, Nat.mul_one] at hshifted
  have hlarge : 2 ^ 53 ≤ m := hshifted ▸ hn.trans (Nat.le_mul_of_pos_right n (Nat.two_pow_pos _))
  have hbits : 53 ≤ m.log2 := (Nat.le_log2 (by omega)).2 hlarge
  omega

/-- The sum of natural numbers from `2 ^ 53` on is rounded, but not below `2 ^ 53`. -/
theorem le_clamp_add {x y : Float} {a b limit : Nat} (hx : 0 ≤ x) (hwx : isWhole x = true)
    (ha : Whole.ofFloat x = .int a) (hy : 0 ≤ y) (hwy : isWhole y = true)
    (hb : Whole.ofFloat y = .int b) (hlarge : 2 ^ 53 ≤ a + b) (hlimit : 2 ^ 53 ≤ limit) :
    2 ^ 53 ≤ (Whole.ofFloat (x + y)).clamp limit := by
  suffices hsum : ∃ m e hm, m.log2 = 52 ∧ 1 ≤ e ∧
      add .binary64 (unpacked x) (unpacked y) = .finite .positive m e hm by
    obtain ⟨m, e, hm, hlog, he, hsum⟩ := hsum
    rw [add_eq, hsum]
    exact le_clamp_packed hm hlog he hlimit
  rcases unpacked_of_natural hx hwx ha with ⟨rfl, s, hx⟩ | ⟨m, e, hm, hx, hlog, hscaled⟩ <;>
    rcases unpacked_of_natural hy hwy hb with
      ⟨rfl, t, hy⟩ | ⟨m', e', hm', hy, hlog', hscaled'⟩ <;>
    rw [hx, hy]
  · omega
  · exact ⟨m', e', hm', hlog', one_le_exponent hlog' hscaled' (by omega), rfl⟩
  · exact ⟨m, e, hm, hlog, one_le_exponent hlog hscaled (by omega), rfl⟩
  obtain ⟨low, hlow⟩ : ∃ low, min e e' = low := ⟨_, rfl⟩
  rw [add_positive hm hm' hlow]
  have hpos : m * 2 ^ (e - low).toNat + m' * 2 ^ (e' - low).toNat ≠ 0 :=
    Nat.ne_of_gt (Nat.add_pos_left (Nat.mul_pos hm (Nat.two_pow_pos _)) _)
  have hwide : 52 ≤ m.log2 + (e - low).toNat := by omega
  by_cases hlow' : 1 ≤ low
  · have hbits : 52 ≤ (m * 2 ^ (e - low).toNat + m' * 2 ^ (e' - low).toNat).log2 := by
      rw [← log2_mul_two_pow (Nat.ne_of_gt hm)] at hwide
      refine hwide.trans ((Nat.le_log2 hpos).2 ?_)
      exact (Nat.log2_self_le (Nat.ne_of_gt (Nat.mul_pos hm (Nat.two_pow_pos _)))).trans
        (Nat.le_add_right _ _)
    exact exists_round hbits (by omega)
  · -- both numbers have digits after the point, which are zeros
    obtain ⟨j, rfl⟩ : ∃ j : Nat, low = -j := ⟨(-low).toNat, by omega⟩
    have hsum : m * 2 ^ (e - -j).toNat + m' * 2 ^ (e' - -j).toNat = (a + b) * 2 ^ j := by
      rw [Int.sub_neg, Int.sub_neg, hscaled j (by omega), hscaled' j (by omega), Nat.add_mul]
    have hbits : 53 ≤ (a + b).log2 := (Nat.le_log2 (by omega)).2 hlarge
    rw [hsum]
    refine exists_round ?_ ?_ <;> rw [log2_mul_two_pow (by omega)] <;> omega

end Double
end WebRecipe
