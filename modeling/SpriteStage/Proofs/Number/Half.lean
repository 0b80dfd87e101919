import Mathlib.Data.Nat.Log
import Mathlib.Tactic.NormNum

namespace SpriteStage.Number

/-!
# Half of a double

Half of a finite double is finite.  The exponent of a quotient by two is
smaller than the exponent of the double, and rounding raises it by one at most,
so packing the quotient does not overflow.
-/

open Float.Model Float.Model.UnpackedFloat

/-- The largest exponent of a finite double whose mantissa is an integer. -/
def topExponent : Int := 971

/-! ## Rounding -/

theorem mantissa_shiftRight (extended : ExtendedMantissa) (count : Nat) :
    (extended >>> count).mantissa = extended.mantissa / 2 ^ count := by
  induction count with
  | zero => exact (Nat.div_one _).symm
  | succ count step =>
    have last : (extended >>> (count + 1)).mantissa = (extended >>> count).mantissa / 2 := rfl
    rw [last, step, Nat.div_div_eq_div_mul, Nat.pow_succ]

theorem roundedMantissa_le (extended : ExtendedMantissa) :
    extended.roundedMantissa ≤ extended.mantissa + 1 := by
  rcases extended with ⟨mantissa, half, sticky⟩
  cases half <;> cases sticky <;>
    simp only [ExtendedMantissa.roundedMantissa, ExtendedMantissa.accuracy,
      Accuracy.roundToNearestEven] <;> omega

theorem mantissa_ofMantissaAndAccuracy (mantissa : Nat) (accuracy : Accuracy) :
    (ExtendedMantissa.ofMantissaAndAccuracy mantissa accuracy).mantissa = mantissa := by
  cases accuracy with
  | exact => rfl
  | inexact order => cases order <;> rfl

theorem targetExponent_binary64 (total : Int) :
    Format.binary64.targetExponent total = max (total - 53) (-1074) := rfl

/-- A shift to the target leaves no more bits than a double has. -/
theorem mantissa_shiftToTargetExponent_lt (mantissa : Nat) (exponent : Int) (accuracy : Accuracy) :
    (shiftToTargetExponent Format.binary64 mantissa exponent accuracy).1.mantissa < 2 ^ 53 := by
  unfold shiftToTargetExponent shiftToExponent
  dsimp only
  rw [mantissa_shiftRight, mantissa_ofMantissaAndAccuracy, targetExponent_binary64]
  unfold totalExponent
  generalize shift :
    (max ((mantissa.log2 : Int) + 1 + exponent - 53) (-1074) - exponent).toNat = amount
  have enough : mantissa.log2 + 1 ≤ amount + 53 := by omega
  apply Nat.div_lt_of_lt_mul
  calc mantissa < 2 ^ (mantissa.log2 + 1) := Nat.lt_log2_self
    _ ≤ 2 ^ (amount + 53) := Nat.pow_le_pow_right (by decide) enough
    _ = 2 ^ amount * 2 ^ 53 := Nat.pow_add 2 amount 53

theorem exponent_shiftToTargetExponent (mantissa : Nat) (exponent : Int) (accuracy : Accuracy) :
    (shiftToTargetExponent Format.binary64 mantissa exponent accuracy).2 =
      max exponent (max (mantissa.log2 + exponent - 52) (-1074)) := by
  unfold shiftToTargetExponent shiftToExponent
  dsimp only
  rw [targetExponent_binary64, totalExponent]
  omega

theorem log2_le_of_le_pow {value bits : Nat} (bound : value ≤ 2 ^ bits) : value.log2 ≤ bits := by
  by_cases zero : value = 0
  · rw [zero]
    exact Nat.zero_le bits
  · have below : value < 2 ^ (bits + 1) :=
      bound.trans_lt (Nat.pow_lt_pow_right (by decide) (Nat.lt_succ_self bits))
    exact Nat.le_of_lt_succ ((Nat.log2_lt zero).2 below)

/-- Whether a value that is not packed yet has the size of a finite double. -/
def Fits : UnpackedFloat -> Prop
  | .infinity _ => False
  | .notANumber => False
  | .zero _ => True
  | .finite _ mantissa exponent _ => mantissa < 2 ^ 53 ∧ exponent ≤ topExponent

/-- What is one bit below the largest doubles still fits after rounding. -/
theorem fits_roundWithAccuracy {mantissa : Nat} {exponent : Int} (sign : Sign)
    (accuracy : Accuracy) (low : exponent < topExponent)
    (below : mantissa.log2 + exponent < 52 + topExponent) :
    Fits (roundWithAccuracy Format.binary64 sign mantissa exponent accuracy) := by
  have bits := mantissa_shiftToTargetExponent_lt mantissa exponent accuracy
  have placed := exponent_shiftToTargetExponent mantissa exponent accuracy
  unfold roundWithAccuracy
  dsimp only
  generalize shiftToTargetExponent Format.binary64 mantissa exponent accuracy = shifted at *
  have carried : shifted.1.roundedMantissa.log2 ≤ 53 :=
    log2_le_of_le_pow ((roundedMantissa_le shifted.1).trans bits)
  by_cases empty : (shiftToTargetExponent Format.binary64 shifted.1.roundedMantissa shifted.2
      .exact).1.mantissa = 0
  · rw [dif_pos empty]
    exact trivial
  · rw [dif_neg empty]
    unfold topExponent at low below
    refine ⟨mantissa_shiftToTargetExponent_lt _ _ _, ?_⟩
    rw [exponent_shiftToTargetExponent, placed, topExponent]
    omega

/-! ## Packing and unpacking -/

theorem isFinite_unpack {bits : BitVec Format.binary64.numBits}
    (ordinary : unpackExponent bits ≠ -1#11) :
    (UnpackedFloat.unpack Format.binary64 bits).isFinite = true := by
  unfold UnpackedFloat.unpack
  dsimp only
  rw [if_neg ordinary]
  by_cases bottom : unpackExponent bits = 0#_
  · rw [if_pos bottom]
    by_cases empty : unpackMantissa bits = 0#_
    · rw [dif_pos empty]
      rfl
    · rw [dif_neg empty]
      rfl
  · rw [if_neg bottom]
    rfl

/-- The exponent field of a value that fits is not the one of the infinities. -/
theorem unpackExponent_pack {value : UnpackedFloat} (fits : Fits value) :
    unpackExponent (UnpackedFloat.pack Format.binary64 value) ≠ -1#11 := by
  cases value with
  | infinity sign => exact fits.elim
  | notANumber => exact fits.elim
  | zero sign =>
    unfold UnpackedFloat.pack
    rw [packedZero, unpackExponent_packComponents]
    decide
  | finite sign mantissa exponent positive =>
    have low : exponent ≤ 971 := fits.2
    have bias : Format.binary64.exponentBias = 1023 := by decide
    unfold UnpackedFloat.pack
    dsimp only
    rw [bias]
    generalize field : (exponent + (1023 : Nat) + (52 : Nat)).toNat = biased
    have room : biased < 2047 := by omega
    rw [if_neg (by omega)]
    split
    · rw [unpackExponent_packComponents]
      intro top
      have same : biased % 2048 = 2047 := congrArg BitVec.toNat top
      omega
    · rw [unpackExponent_packComponents]
      decide

theorem isFinite_pack {value : UnpackedFloat} (fits : Fits value) :
    (Float.Model.pack value).isFinite = true := isFinite_unpack (unpackExponent_pack fits)

theorem fits_unpack {bits : BitVec Format.binary64.numBits}
    (finite : (UnpackedFloat.unpack Format.binary64 bits).isFinite = true) :
    Fits (UnpackedFloat.unpack Format.binary64 bits) := by
  have field : (unpackExponent bits).toNat < 2 ^ 11 := (unpackExponent bits).isLt
  have width : (unpackMantissa bits).toNat < 2 ^ 52 := (unpackMantissa bits).isLt
  have bias : Format.binary64.exponentBias = 1023 := by decide
  unfold UnpackedFloat.unpack at finite ⊢
  dsimp only at finite ⊢
  rw [bias] at finite ⊢
  by_cases top : unpackExponent bits = -1#11
  · rw [if_pos top] at finite
    split at finite <;> cases finite
  · have below : (unpackExponent bits).toNat ≠ 2047 := fun same =>
      top (BitVec.eq_of_toNat_eq same)
    rw [if_neg top]
    by_cases bottom : unpackExponent bits = 0#_
    · rw [if_pos bottom]
      by_cases empty : unpackMantissa bits = 0#_
      · rw [dif_pos empty]
        exact trivial
      · rw [dif_neg empty]
        refine ⟨width.trans (by decide), ?_⟩
        rw [bottom]
        decide
    · rw [if_neg bottom]
      refine ⟨BitVec.isLt _, ?_⟩
      unfold topExponent
      omega

/-! ## Halving -/

theorem log2_shiftLeft {value : Nat} (positive : 0 < value) (count : Nat) :
    (value <<< count).log2 = value.log2 + count := by
  induction count with
  | zero => rfl
  | succ count step =>
    have nonzero : value * 2 ^ count ≠ 0 := (Nat.mul_pos positive (Nat.two_pow_pos count)).ne'
    rw [Nat.shiftLeft_eq] at step ⊢
    rw [Nat.pow_succ, ← Nat.mul_assoc, Nat.log2_eq_log_two, Nat.log_mul_base (by decide) nonzero,
      ← Nat.log2_eq_log_two, step, Nat.add_assoc]

theorem log2_div_two_pow (value count : Nat) :
    (value / 2 ^ count).log2 = value.log2 - count := by
  rw [Nat.log2_eq_log_two, Nat.log_div_base_pow, ← Nat.log2_eq_log_two]

/-- Halving a value that has the size of a double loses one in its exponent. -/
theorem fits_half {value : UnpackedFloat} (fits : Fits value) :
    Fits (UnpackedFloat.div Format.binary64 value (2.0 : Float).toModel.unpack) := by
  have two : (2.0 : Float).toModel.unpack = .finite .positive (2 ^ 52) (-51) (by decide) := rfl
  rw [two]
  cases value with
  | infinity sign => exact fits.elim
  | notANumber => exact fits.elim
  | zero sign => exact trivial
  | finite sign mantissa exponent positive =>
    have bits : mantissa.log2 < 53 := (Nat.log2_lt positive.ne').2 fits.1
    have low : exponent ≤ 971 := fits.2
    unfold UnpackedFloat.div divCore
    dsimp only
    rw [targetExponent_binary64, totalExponent, totalExponent, Nat.log2_two_pow]
    apply fits_roundWithAccuracy
    · unfold topExponent
      omega
    · rw [log2_div_two_pow, log2_shiftLeft positive, topExponent]
      omega

/-- Half of a finite double is finite. -/
theorem isFinite_half {value : Float} (finite : value.isFinite = true) :
    (value / 2.0).isFinite = true := isFinite_pack (fits_half (fits_unpack finite))

end SpriteStage.Number
