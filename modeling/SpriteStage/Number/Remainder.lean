import SpriteStage.Number.Binary

namespace SpriteStage.Number

/-!
# Exact remainders

The remainder of one double by another is itself a double, so it is computed
exactly: no quotient is ever rounded.
-/

/-- The remainder of `value` by the whole number `modulus`, with the sign of
`value`.  It is undefined when `value` is not finite. -/
def remainder (value : Float) (modulus : Nat) : Float :=
  match Binary.ofFloat value with
  | .finite negative significand exponent =>
    if 0 ≤ exponent then nearest negative (significand * Nat.pow 2 exponent.toNat % modulus) 0
    else nearest negative (significand % (modulus * Nat.pow 2 (-exponent).toNat)) exponent
  | _ => 0.0 / 0.0

/-- Wrap a number of degrees into the half-open range from 0 to 360.  A tiny
negative number would round up to 360 itself, which is 0. -/
def wrapDegrees (degrees : Float) : Float :=
  let signed := remainder degrees 360
  let wrapped := if signed < 0.0 then signed + 360.0 else signed
  if wrapped ≥ 360.0 then 0.0 else wrapped

end SpriteStage.Number
