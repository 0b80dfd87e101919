import Mathlib.Algebra.Ring.Nat
import SpriteStage.Number.Shortest

namespace SpriteStage.Number

/-!
# Shortest decimals are positive

A positive double has a positive shortest decimal: a point of the interval
around it lies above zero, and so does the nearest decimal of seventeen
digits, which is taken when no shorter one is found.
-/

/-! ## The first digit of a quotient -/

theorem digitCount_pos (number : Nat) : 0 < digitCount number :=
  List.length_pos_iff.2 Nat.toDigits_ne_nil

theorem lt_pow_digitCount (number : Nat) : number < 10 ^ digitCount number :=
  (Nat.length_toDigits_le_iff (by decide) (digitCount_pos number)).1 (Nat.le_refl _)

theorem pow_digitCount_le {number : Nat} (positive : 0 < number) :
    10 ^ (digitCount number - 1) ≤ number := by
  rcases Nat.eq_zero_or_pos (digitCount number - 1) with single | several
  · rw [single]
    exact positive
  · apply Nat.le_of_not_lt
    intro small
    have fewer := (Nat.length_toDigits_le_iff (by decide) several).2 small
    have same : (Nat.toDigits 10 number).length = digitCount number := rfl
    omega

/-- A quotient reaches the power of ten of its first digit. -/
theorem decimalExponent_le {numerator denominator : Nat} (positive : 0 < numerator) :
    denominator * 10 ^ (decimalExponent numerator denominator).toNat ≤
      numerator * 10 ^ (-decimalExponent numerator denominator).toNat := by
  rw [decimalExponent]
  generalize guessed : (digitCount numerator : Int) - digitCount denominator = guess
  split
  · have least := pow_digitCount_le positive
    have most := lt_pow_digitCount denominator
    have more := digitCount_pos numerator
    by_cases high : 1 ≤ guess
    · have above : (-(guess - 1)).toNat = 0 := by omega
      rw [above, Nat.pow_zero, Nat.mul_one]
      refine Nat.le_trans (Nat.mul_le_mul_right _ (Nat.le_of_lt most)) ?_
      rw [← Nat.pow_add]
      refine Nat.le_trans (Nat.pow_le_pow_right (by decide) ?_) least
      omega
    · have below : (guess - 1).toNat = 0 := by omega
      rw [below, Nat.pow_zero, Nat.mul_one]
      refine Nat.le_trans (Nat.le_of_lt most) ?_
      refine Nat.le_trans ?_ (Nat.mul_le_mul_right _ least)
      rw [← Nat.pow_add]
      apply Nat.pow_le_pow_right (by decide)
      omega
  · rename_i reached
    exact Nat.le_of_not_lt reached

/-! ## Points of the interval -/

namespace RoundingInterval

variable {interval : RoundingInterval}

theorem shift_low_pos (positive : 0 < interval.low) (places : Int) :
    0 < (interval.shift places).low :=
  Nat.mul_pos positive (Nat.pow_pos (by decide))

theorem pos_of_contains {number : Nat} (positive : 0 < interval.low)
    (inside : interval.contains number = true) : 0 < number := by
  apply Nat.pos_of_ne_zero
  rintro rfl
  rw [contains, Nat.zero_mul] at inside
  split at inside
  · simp only [Bool.and_eq_true, decide_eq_true_eq] at inside
    omega
  · simp only [Bool.and_eq_true, decide_eq_true_eq] at inside
    omega

theorem pos_of_nearestWhole? {tie : Tie} {number : Nat} (positive : 0 < interval.low)
    (found : interval.nearestWhole? tie = some number) : 0 < number := by
  have either : forall near far : Nat, (if interval.contains near then some near
      else if interval.contains far then some far else none) = some number -> 0 < number := by
    intro near far found
    split at found
    · rename_i inside
      cases found
      exact pos_of_contains positive inside
    · split at found
      · rename_i inside
        cases found
        exact pos_of_contains positive inside
      · cases found
  exact either _ _ found

theorem ofBinary_low_pos {significand : Nat} (positive : 0 < significand) (exponent : Int) :
    0 < (ofBinary significand exponent).low := by
  apply Nat.mul_pos
  · split <;> omega
  · exact Nat.pow_pos (by decide)

theorem ofBinary_value_pos {significand : Nat} (positive : 0 < significand) (exponent : Int) :
    0 < (ofBinary significand exponent).value :=
  Nat.mul_pos (by omega) (Nat.pow_pos (by decide))

end RoundingInterval

/-! ## The digits -/

variable {interval : RoundingInterval} {first : Int}

/-- From the power of ten of the first digit on, a grid has a positive point
next to the value. -/
theorem roundDiv_shift_pos (denominated : 0 < interval.denominator)
    (reached : interval.denominator * 10 ^ first.toNat ≤ interval.value * 10 ^ (-first).toNat)
    {places : Int} (enough : -first ≤ places) (tie : Tie) :
    0 < roundDiv (interval.shift places).value (interval.shift places).denominator tie := by
  have below : (interval.shift places).denominator ≤ (interval.shift places).value :=
    calc interval.denominator * 10 ^ (-places).toNat
        ≤ interval.denominator * 10 ^ first.toNat :=
          Nat.mul_le_mul_left _ (Nat.pow_le_pow_right (by decide) (by omega))
      _ ≤ interval.value * 10 ^ (-first).toNat := reached
      _ ≤ interval.value * 10 ^ places.toNat :=
          Nat.mul_le_mul_left _ (Nat.pow_le_pow_right (by decide) (by omega))
  have positive : 0 < (interval.shift places).denominator :=
    Nat.mul_pos denominated (Nat.pow_pos (by decide))
  exact Nat.lt_of_lt_of_le (Nat.div_pos below positive) (le_roundDiv _ _ tie)

theorem shortestFrom_pos (lowPositive : 0 < interval.low) (denominated : 0 < interval.denominator)
    (reached : interval.denominator * 10 ^ first.toNat ≤ interval.value * 10 ^ (-first).toNat)
    (tie : Tie) (tries : Nat) :
    forall count : Nat, 0 < count -> 0 < shortestFrom interval first tie tries count := by
  induction tries with
  | zero =>
    intro count counted
    exact roundDiv_shift_pos denominated reached (by omega) tie
  | succ tries step =>
    intro count counted
    rw [shortestFrom]
    split
    · rename_i found
      exact RoundingInterval.pos_of_nearestWhole? (RoundingInterval.shift_low_pos lowPositive _)
        found
    · exact step (count + 1) (Nat.succ_pos count)

theorem stripZeros_pos (fuel : Nat) : forall {number : Nat}, 0 < number ->
    0 < stripZeros fuel number := by
  induction fuel with
  | zero => exact id
  | succ fuel step =>
    intro number positive
    rw [stripZeros]
    split
    · exact step (by omega)
    · exact positive

/-- The shortest decimal of a positive double is positive. -/
theorem shortest_pos {significand : Nat} (positive : 0 < significand) (exponent : Int) (tie : Tie) :
    0 < (shortest significand exponent tie).digits := by
  have digits := shortestFrom_pos (RoundingInterval.ofBinary_low_pos positive exponent)
    (Nat.pow_pos (by decide))
    (decimalExponent_le (RoundingInterval.ofBinary_value_pos positive exponent)) tie 16 1
    Nat.one_pos
  rw [shortest]
  split
  · exact Nat.one_pos
  · exact stripZeros_pos 17 digits

end SpriteStage.Number
