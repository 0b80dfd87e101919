import Mathlib.Data.Int.Order.Basic

namespace SpriteStage.Number

/-!
# The size of a difference

The difference of two doubles and the difference the other way round have one
magnitude, whatever the doubles are.  Both come from one exact difference up
to its sign, and neither rounding nor packing looks at the sign.  At a zero
and at a difference that is no number there is nothing to compare.
-/

open Float.Model

/-- The last step of rounding: a mantissa that is not zero gets a sign. -/
theorem abs_signed (sign other : UnpackedFloat.Sign) (mantissa : Nat) (exponent : Int) :
    (if zero : mantissa = 0 then UnpackedFloat.zero sign
      else .finite sign mantissa exponent (Nat.pos_of_ne_zero zero)).abs =
      (if zero : mantissa = 0 then UnpackedFloat.zero other
        else .finite other mantissa exponent (Nat.pos_of_ne_zero zero)).abs := by
  by_cases zero : mantissa = 0
  · rw [dif_pos zero, dif_pos zero]
    rfl
  · rw [dif_neg zero, dif_neg zero]
    rfl

theorem abs_round (spec : Format) (sign other : UnpackedFloat.Sign) (mantissa : Nat)
    (exponent : Int) :
    (UnpackedFloat.round spec sign mantissa exponent).abs =
      (UnpackedFloat.round spec other mantissa exponent).abs := by
  unfold UnpackedFloat.round UnpackedFloat.roundWithAccuracy
  exact abs_signed sign other _ _

/-- Opposite exact values give doubles of one magnitude. -/
theorem abs_normalize_neg (spec : Format) (mantissa : Int) (exponent : Int)
    (sign : UnpackedFloat.Sign) :
    (UnpackedFloat.normalize spec (-mantissa) exponent sign).abs =
      (UnpackedFloat.normalize spec mantissa exponent sign).abs := by
  rcases lt_trichotomy mantissa 0 with negative | zero | positive
  · have flipped : compare (-mantissa) 0 = .gt := by
      rw [compare_gt_iff_gt]
      omega
    have below : compare mantissa 0 = .lt := compare_lt_iff_lt.2 negative
    unfold UnpackedFloat.normalize
    rw [flipped, below]
    exact abs_round spec .positive .negative _ exponent
  · rw [zero]
    rfl
  · have flipped : compare (-mantissa) 0 = .lt := by
      rw [compare_lt_iff_lt]
      omega
    have above : compare mantissa 0 = .gt := compare_gt_iff_gt.2 positive
    unfold UnpackedFloat.normalize
    rw [flipped, above, Int.neg_neg]
    exact abs_round spec .negative .positive _ exponent

theorem abs_sub_unpacked (spec : Format) (first second : UnpackedFloat) :
    (UnpackedFloat.sub spec first second).abs = (UnpackedFloat.sub spec second first).abs := by
  cases first with
  | notANumber => cases second <;> rfl
  | infinity sign =>
    cases second with
    | infinity other => cases sign <;> cases other <;> rfl
    | _ => rfl
  | zero sign =>
    cases second with
    | zero other => cases sign <;> cases other <;> rfl
    | _ => rfl
  | finite sign mantissa exponent positive =>
    cases second with
    | finite other otherMantissa otherExponent otherPositive =>
      have opposite : forall one two : Int, two - one = -(one - two) := by
        intro one two
        omega
      unfold UnpackedFloat.sub
      dsimp only
      rw [min_comm otherExponent exponent, opposite, abs_normalize_neg]
    | _ => rfl

theorem finite_congr {sign : UnpackedFloat.Sign} {mantissa other : Nat}
    {exponent otherExponent : Int} {positive : 0 < mantissa} {otherPositive : 0 < other}
    (sameMantissa : mantissa = other) (sameExponent : exponent = otherExponent) :
    UnpackedFloat.finite sign mantissa exponent positive =
      UnpackedFloat.finite sign other otherExponent otherPositive := by
  subst sameMantissa sameExponent
  rfl

/-- The magnitude of packed bits is in their exponent and their mantissa. -/
theorem abs_unpack_congr {spec : Format} {first second : BitVec spec.numBits}
    (mantissa : UnpackedFloat.unpackMantissa first = UnpackedFloat.unpackMantissa second)
    (exponent : UnpackedFloat.unpackExponent first = UnpackedFloat.unpackExponent second) :
    (UnpackedFloat.unpack spec first).abs = (UnpackedFloat.unpack spec second).abs := by
  unfold UnpackedFloat.unpack
  dsimp only
  by_cases top : UnpackedFloat.unpackExponent second = -1#_
  · rw [if_pos (exponent.trans top), if_pos top]
    by_cases empty : UnpackedFloat.unpackMantissa second = 0#_
    · rw [if_pos (mantissa.trans empty), if_pos empty]
      rfl
    · rw [if_neg (fun other => empty (mantissa.symm.trans other)), if_neg empty]
  · rw [if_neg (fun other => top (exponent.symm.trans other)), if_neg top]
    by_cases bottom : UnpackedFloat.unpackExponent second = 0#_
    · rw [if_pos (exponent.trans bottom), if_pos bottom]
      by_cases empty : UnpackedFloat.unpackMantissa second = 0#_
      · rw [dif_pos (mantissa.trans empty), dif_pos empty]
        rfl
      · rw [dif_neg (fun other => empty (mantissa.symm.trans other)), dif_neg empty]
        exact finite_congr (by rw [mantissa]) (by rw [exponent])
    · rw [if_neg (fun other => bottom (exponent.symm.trans other)), if_neg bottom]
      exact finite_congr (by rw [mantissa]) (by rw [exponent])

/-- What is packed with one sign or the other unpacks to one magnitude. -/
theorem abs_unpack_packComponents (spec : Format) (sign other : UnpackedFloat.Sign)
    (exponent : BitVec spec.exponentBits) (mantissa : BitVec spec.mantissaBitsWithoutImplicit) :
    (UnpackedFloat.unpack spec (UnpackedFloat.packComponents spec sign exponent mantissa)).abs =
      (UnpackedFloat.unpack spec
        (UnpackedFloat.packComponents spec other exponent mantissa)).abs := by
  apply abs_unpack_congr
  · rw [UnpackedFloat.unpackMantissa_packComponents, UnpackedFloat.unpackMantissa_packComponents]
  · rw [UnpackedFloat.unpackExponent_packComponents, UnpackedFloat.unpackExponent_packComponents]

theorem abs_unpack_pack (spec : Format) {first second : UnpackedFloat}
    (same : first.abs = second.abs) :
    (UnpackedFloat.unpack spec (UnpackedFloat.pack spec first)).abs =
      (UnpackedFloat.unpack spec (UnpackedFloat.pack spec second)).abs := by
  cases first <;> cases second <;> cases same
  · exact abs_unpack_packComponents spec _ _ _ _
  · rfl
  · exact abs_unpack_packComponents spec _ _ _ _
  · unfold UnpackedFloat.pack
    dsimp only
    split
    · exact abs_unpack_packComponents spec _ _ _ _
    · split
      · exact abs_unpack_packComponents spec _ _ _ _
      · exact abs_unpack_packComponents spec _ _ _ _

theorem abs_sub_comm (first second : Float) : (first - second).abs = (second - first).abs := by
  have opposite := abs_unpack_pack Format.binary64
    (abs_sub_unpacked Format.binary64 first.toModel.unpack second.toModel.unpack)
  exact congrArg (fun magnitude => (⟨pack magnitude⟩ : Float)) opposite

end SpriteStage.Number
