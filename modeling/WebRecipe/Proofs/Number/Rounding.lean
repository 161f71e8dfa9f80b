import Mathlib
import WebRecipe.Number.Binary64

/-!
# Parts of doubles

The arithmetic of doubles takes them apart, calculates with a sign, a mantissa and an exponent, rounds
the result and puts it together again. What is put together and taken apart again is what it was, if
the mantissa has 53 bits and the exponent is in range, and these are also the parts that are read off
the bits.

## Main definitions

* `Double.packed`, `Double.unpacked`: the double of its parts, and the parts of a double.
* `Double.Normal`: a mantissa of 53 bits and an exponent in range.

## Main results

* `Binary64.ofFloat_eq`: the parts that are read off the bits are the parts that are calculated with.
* `Double.unpacked_packed_finite`: what is put together is taken apart again.
* `Double.roundWithAccuracy_exact`: a number of at most 53 significant bits is not changed by rounding.
* `Double.exists_roundWithAccuracy`: rounding changes the exponent by at most one.
-/

namespace WebRecipe

open Float.Model (Format UnpackedFloat totalExponent)
open Float.Model.UnpackedFloat

/-- The parts of a double that are calculated with. -/
def Binary64.ofUnpacked : UnpackedFloat → Binary64
  | .notANumber => .nan
  | .infinity s => .infinite (s == .negative)
  | .zero s => .finite (s == .negative) 0 (-1074)
  | .finite s m e _ => .finite (s == .negative) m e

namespace Double

/-- The double of its parts. -/
def packed (u : UnpackedFloat) : Float :=
  .ofModel (.pack u)

/-- The parts of a double. -/
def unpacked (x : Float) : UnpackedFloat :=
  x.toModel.unpack

theorem neg_eq (x : Float) : -x = packed (unpacked x).neg :=
  rfl

theorem add_eq (x y : Float) : x + y = packed (.add .binary64 (unpacked x) (unpacked y)) :=
  rfl

theorem mul_eq (x y : Float) : x * y = packed (.mul .binary64 (unpacked x) (unpacked y)) :=
  rfl

theorem div_eq (x y : Float) : x / y = packed (.div .binary64 (unpacked x) (unpacked y)) :=
  rfl

end Double

/-! ### Bits -/

private theorem toNat_unpackMantissa (b : BitVec 64) :
    (@unpackMantissa .binary64 b).toNat = b.toNat % 2 ^ 52 := by
  simp [unpackMantissa, Format.binary64]

private theorem toNat_unpackExponent (b : BitVec 64) :
    (@unpackExponent .binary64 b).toNat = b.toNat / 2 ^ 52 % 2 ^ 11 := by
  simp [unpackExponent, Format.binary64, Nat.shiftRight_eq_div_pow]

private theorem toNat_unpackSign (b : BitVec 64) :
    (@unpackSign .binary64 b).toNat = b.toNat / 2 ^ 63 % 2 := by
  simp [unpackSign, Format.binary64, Nat.shiftRight_eq_div_pow]

private theorem sign_eq (b : BitVec 64) :
    (Sign.ofBitVec (@unpackSign .binary64 b) == .negative) =
      (b.toNat / 2 ^ 63 % 2 == 1) := by
  rw [← toNat_unpackSign]
  generalize @unpackSign .binary64 b = v
  revert v
  decide

private theorem toNat_implicit (m : BitVec 52) : (1#1 ++ m).toNat = m.toNat + 2 ^ 52 := by
  rw [BitVec.toNat_append, ← Nat.shiftLeft_add_eq_or_of_lt m.isLt, Nat.add_comm]
  rfl

/-- The parts that are read off the bits of a double are those that are calculated with. -/
theorem Binary64.ofFloat_eq (x : Float) : ofFloat x = ofUnpacked (Double.unpacked x) := by
  have hbits : x.toBits.toNat = x.toModel.toBits.toBitVec.toNat := rfl
  have hunpacked : Double.unpacked x = unpack .binary64 x.toModel.toBits.toBitVec := rfl
  rw [ofFloat, hbits, hunpacked]
  generalize x.toModel.toBits.toBitVec = b
  simp only [ofBits, unpack, Nat.pow_eq, ← toNat_unpackMantissa, ← toNat_unpackExponent, ← sign_eq]
  have hlast : @unpackExponent .binary64 b = -1#11 ↔
      (@unpackExponent .binary64 b).toNat = 2047 := BitVec.toNat_inj.symm
  have hfirst : @unpackExponent .binary64 b = 0#11 ↔
      (@unpackExponent .binary64 b).toNat = 0 := BitVec.toNat_inj.symm
  have hnone : @unpackMantissa .binary64 b = 0#52 ↔
      (@unpackMantissa .binary64 b).toNat = 0 := BitVec.toNat_inj.symm
  simp only [hlast, hfirst, hnone]
  split
  case isTrue =>
    split
    case isTrue => rfl
    case isFalse => rfl
  case isFalse =>
    split
    case isTrue hsmall =>
      split
      case isTrue hzero => rw [hzero]; rfl
      case isFalse => rw [hsmall]; rfl
    case isFalse =>
      exact congrArg (finite _ · _) (toNat_implicit _).symm

/-! ### Putting together -/

namespace Double

/-- A mantissa of 53 bits and an exponent for which there are doubles. -/
structure Normal (m : Nat) (e : Int) : Prop where
  log2_eq : m.log2 = 52
  low : -1074 ≤ e
  high : e ≤ 971

variable {m : Nat} {e : Int}

theorem Normal.pos (h : Normal m e) : 0 < m := by
  refine Nat.pos_of_ne_zero ?_
  rintro rfl
  cases h.log2_eq

theorem Normal.bounds (h : Normal m e) : 2 ^ 52 ≤ m ∧ m < 2 ^ 53 :=
  (Nat.log2_eq_iff (Nat.ne_of_gt h.pos)).1 h.log2_eq

/-- What is put together of a sign, a mantissa and an exponent is taken apart into them again. -/
theorem unpacked_packed_finite (h : Normal m e) (s : Sign) :
    unpacked (packed (.finite s m e h.pos)) = .finite s m e h.pos := by
  obtain ⟨hlow, hhigh⟩ := h.bounds
  have hbias : Format.binary64.exponentBias = 1023 := rfl
  have hbits : Format.binary64.mantissaBits = 53 := rfl
  obtain ⟨biased, hbiased⟩ : ∃ biased : Nat, (biased : Int) = e + 1075 :=
    ⟨(e + 1075).toNat, by have := h.low; omega⟩
  have hexponent : (e + (Format.binary64.exponentBias : Int) +
      (Format.binary64.mantissaBitsWithoutImplicit : Int)).toNat = biased := by
    rw [hbias]
    change (e + 1023 + 52).toNat = biased
    omega
  have hrange : 0 < biased ∧ biased < 2047 := by
    have := h.low
    have := h.high
    omega
  have hpack : pack .binary64 (.finite s m e h.pos) =
      packComponents .binary64 s (BitVec.ofNat 11 biased) (BitVec.ofNat 52 m) := by
    rw [pack, hexponent, if_neg, if_pos]
    · rw [h.log2_eq, hbits]
    · change ¬ 2 ^ 11 ≤ biased + 1
      omega
  have hsame : unpacked (packed (.finite s m e h.pos)) =
      unpack .binary64 (pack .binary64 (.finite s m e h.pos)) := rfl
  have hlast : BitVec.ofNat 11 biased ≠ -1#11 := by
    rw [ne_eq, ← BitVec.toNat_inj, BitVec.toNat_ofNat]
    change ¬ biased % 2 ^ 11 = 2047
    omega
  have hfirst : BitVec.ofNat 11 biased ≠ 0#11 := by
    rw [ne_eq, ← BitVec.toNat_inj, BitVec.toNat_ofNat]
    change ¬ biased % 2 ^ 11 = 0
    omega
  rw [hsame, hpack, unpack]
  simp only [unpackMantissa_packComponents, unpackExponent_packComponents,
    unpackSign_packComponents, Sign.ofBitVec_toBitVec]
  rw [if_neg hlast, if_neg hfirst]
  have hmantissa : (1#1 ++ BitVec.ofNat 52 m).toNat = m := by
    rw [toNat_implicit, BitVec.toNat_ofNat]
    omega
  have hexponent' : ((BitVec.ofNat 11 biased).toNat : Int) - (1023 + 52) = e := by
    rw [BitVec.toNat_ofNat]
    omega
  congr 1

theorem unpacked_packed_zero (s : Sign) : unpacked (packed (.zero s)) = .zero s := by
  cases s <;> rfl

/-! ### Rounding -/

theorem mantissa_shiftRight (m k : Nat) :
    ((⟨m, false, false⟩ : ExtendedMantissa) >>> k).mantissa = m / 2 ^ k := by
  induction k with
  | zero => simp [HShiftRight.hShiftRight, Nat.repeat]
  | succ k ih =>
    have hone : ((⟨m, false, false⟩ : ExtendedMantissa) >>> (k + 1)).mantissa =
        ((⟨m, false, false⟩ : ExtendedMantissa) >>> k).mantissa / 2 := rfl
    rw [hone, ih, Nat.div_div_eq_div_mul, Nat.pow_succ]

/-- Nothing is lost where zeros are shifted out. -/
private theorem shiftRight_exact (m k : Nat) :
    (⟨m * 2 ^ k, false, false⟩ : ExtendedMantissa) >>> k = ⟨m, false, false⟩ := by
  induction k generalizing m with
  | zero => simp [HShiftRight.hShiftRight, Nat.repeat]
  | succ k ih =>
    have hone : (⟨m * 2 ^ (k + 1), false, false⟩ : ExtendedMantissa) >>> (k + 1) =
        ((⟨m * 2 ^ (k + 1), false, false⟩ : ExtendedMantissa) >>> k).shiftRightOne := rfl
    rw [hone, Nat.pow_succ, Nat.mul_comm (2 ^ k), ← Nat.mul_assoc, ih]
    simp [ExtendedMantissa.shiftRightOne]

/-- Rounding makes a mantissa at most one greater. -/
private theorem roundedMantissa_bounds (x : ExtendedMantissa) :
    x.mantissa ≤ x.roundedMantissa ∧ x.roundedMantissa ≤ x.mantissa + 1 := by
  obtain ⟨m, round, sticky⟩ := x
  cases round <;> cases sticky <;>
    simp only [ExtendedMantissa.roundedMantissa, ExtendedMantissa.accuracy,
      Accuracy.roundToNearestEven] <;>
    omega

/-- A mantissa of more than 53 bits is shifted until it has 53. -/
private theorem shiftToTargetExponent_eq {k : Nat} (hm : m.log2 = 52 + k) (he : -1074 ≤ e + k) :
    shiftToTargetExponent .binary64 m e .exact =
      ((⟨m, false, false⟩ : ExtendedMantissa) >>> k, e + k) := by
  have hk : (Format.binary64.targetExponent (totalExponent m e) - e).toNat = k := by
    simp only [Format.targetExponent, totalExponent, Format.mantissaBits, Format.minExponent, hm]
    omega
  rw [shiftToTargetExponent, shiftToExponent, hk]
  rfl

/-- A mantissa of 53 bits stays. -/
private theorem shiftToTargetExponent_self (hm : m.log2 = 52) (he : -1074 ≤ e) :
    shiftToTargetExponent .binary64 m e .exact = (⟨m, false, false⟩, e) := by
  have hshift := shiftToTargetExponent_eq (m := m) (e := e) (k := 0) hm (by omega)
  rwa [Int.natCast_zero, Int.add_zero] at hshift

/-- Rounding shifts, rounds what was shifted out, and shifts again. -/
private theorem roundWithAccuracy_eq {x y : ExtendedMantissa} {e' e'' : Int} (s : Sign)
    (hfirst : shiftToTargetExponent .binary64 m e .exact = (x, e'))
    (hsecond : shiftToTargetExponent .binary64 x.roundedMantissa e' .exact = (y, e''))
    (hpos : 0 < y.mantissa) :
    roundWithAccuracy .binary64 s m e .exact = .finite s y.mantissa e'' hpos := by
  simp [roundWithAccuracy, hfirst, hsecond, Nat.ne_of_gt hpos]

theorem log2_mul_two_pow (hm : m ≠ 0) (k : Nat) : (m * 2 ^ k).log2 = m.log2 + k := by
  induction k with
  | zero => rw [Nat.pow_zero, Nat.mul_one, Nat.add_zero]
  | succ k ih =>
    have hne : m * 2 ^ k ≠ 0 := Nat.mul_ne_zero hm (Nat.ne_of_gt (Nat.two_pow_pos k))
    rw [Nat.pow_succ, ← Nat.mul_assoc, Nat.mul_comm _ 2, Nat.log2_two_mul hne, ih, Nat.add_assoc]

/-- A mantissa of 53 bits and zeros after them is kept exactly. -/
theorem roundWithAccuracy_exact {m' : Nat} {e' : Int} {k : Nat} (h : Normal m e)
    (hm : m' = m * 2 ^ k) (he : e' + k = e) (s : Sign) :
    roundWithAccuracy .binary64 s m' e' .exact = .finite s m e h.pos := by
  subst hm he
  have hlog : (m * 2 ^ k).log2 = 52 + k := by
    rw [log2_mul_two_pow (Nat.ne_of_gt h.pos), h.log2_eq]
  have hfirst := shiftToTargetExponent_eq hlog h.low
  rw [shiftRight_exact] at hfirst
  exact roundWithAccuracy_eq s hfirst (shiftToTargetExponent_self h.log2_eq h.low) h.pos

/-- A mantissa of more than 53 bits is shifted, and once more where it is rounded up to a power of
two. -/
theorem exists_roundWithAccuracy {k : Nat} (hm : m.log2 = 52 + k) (he : -1074 ≤ e + k) (s : Sign) :
    ∃ (n : Nat) (c : Nat) (hpos : 0 < n), n.log2 = 52 ∧ c ≤ 1 ∧
      roundWithAccuracy .binary64 s m e .exact = .finite s n (e + k + c) hpos := by
  have hpos : m ≠ 0 := by
    rintro rfl
    rw [Nat.log2_zero] at hm
    omega
  obtain ⟨hlow, hhigh⟩ := (Nat.log2_eq_iff hpos).1 hm
  have hshifted : 2 ^ 52 ≤ m / 2 ^ k ∧ m / 2 ^ k < 2 ^ 53 := by
    refine ⟨(Nat.le_div_iff_mul_le (Nat.two_pow_pos k)).2 ?_,
      (Nat.div_lt_iff_lt_mul (Nat.two_pow_pos k)).2 ?_⟩
    · rwa [← Nat.pow_add]
    · rwa [← Nat.pow_add, show 53 + k = 52 + k + 1 by omega]
  have hfirst := shiftToTargetExponent_eq hm he
  have hrounded := roundedMantissa_bounds ((⟨m, false, false⟩ : ExtendedMantissa) >>> k)
  rw [mantissa_shiftRight] at hrounded
  generalize (⟨m, false, false⟩ : ExtendedMantissa) >>> k = x at hfirst hrounded
  by_cases hfits : x.roundedMantissa < 2 ^ 53
  · have hpositive : 0 < x.roundedMantissa := by omega
    have hlog : x.roundedMantissa.log2 = 52 :=
      (Nat.log2_eq_iff (Nat.ne_of_gt hpositive)).2 ⟨by omega, hfits⟩
    refine ⟨_, 0, hpositive, hlog, by omega, ?_⟩
    rw [Int.natCast_zero, Int.add_zero]
    exact roundWithAccuracy_eq s hfirst (shiftToTargetExponent_self hlog he) hpositive
  · have hcarry : x.roundedMantissa = 2 ^ 52 * 2 ^ 1 := by omega
    have hsecond := shiftToTargetExponent_eq (m := x.roundedMantissa) (e := e + k) (k := 1)
      (by rw [hcarry]; decide) (by omega)
    rw [hcarry, shiftRight_exact] at hsecond
    rw [← hcarry] at hsecond
    exact ⟨_, 1, _, by decide, by omega, roundWithAccuracy_eq s hfirst hsecond (by decide)⟩

end Double
end WebRecipe
