import SpriteStage.Number.Rounding

namespace SpriteStage.Number

/-!
# Floating-point numbers as exact values

A finite double is a whole significand times a power of two.  `Binary.ofFloat`
takes a double apart, and `nearest` finds the double closest to such a
product, so that everything between the two happens in exact arithmetic.
-/

/-- What a double stands for. -/
inductive Binary where
  | undefined
  | infinite (negative : Bool)
  /-- The number `significand * 2 ^ exponent`, negated if `negative`. -/
  | finite (negative : Bool) (significand : Nat) (exponent : Int)
  deriving DecidableEq

namespace Binary

/-- The least exponent of a finite double. -/
def lowest : Int := -1074

/-- The leading bit of a normal significand, the fifty-third from the right.
The bits of the exponent of a double begin there. -/
def leadingBit : Nat := 0x10000000000000

/-- The bits of infinity: the largest exponent, over a fraction of zero. -/
def infinityBits : Nat := 0x7ff0000000000000

def signBit : Nat := 0x8000000000000000

def ofFloat (value : Float) : Binary :=
  let bits := value.toBits.toNat
  let negative := signBit ≤ bits
  let field : Nat := bits / leadingBit % 2048
  let fraction : Nat := bits % leadingBit
  if field = 2047 then
    if fraction = 0 then .infinite negative else .undefined
  else if field = 0 then .finite negative fraction lowest
  else .finite negative (leadingBit + fraction) (lowest + (field - 1 : Nat))

end Binary

/-- The double with the bits of `magnitude` and the given sign.  Numbers past
the largest finite double have the bits of infinity or more, and are cut off
there. -/
def ofMagnitude (negative : Bool) (magnitude : Nat) : Float :=
  let cut := min magnitude Binary.infinityBits
  Float.ofBits (UInt64.ofNat (if negative then Binary.signBit + cut else cut))

/-- The double nearest to `significand * 2 ^ exponent`, ties to the even
significand. -/
def nearest (negative : Bool) (significand : Nat) (exponent : Int) : Float :=
  if significand = 0 then ofMagnitude negative 0
  else
    let length : Int := significand.log2 + 1
    let target := max (exponent + length - 53) Binary.lowest
    let scaled :=
      if target ≤ exponent then significand * Nat.pow 2 (exponent - target).toNat
      else roundDiv significand (Nat.pow 2 (target - exponent).toNat) .toEven
    ofMagnitude negative ((target - Binary.lowest).toNat * Binary.leadingBit + scaled)

/-- The whole part of a finite double; what is not finite has none and gives 0. -/
def wholePart (value : Float) : Int :=
  match Binary.ofFloat value with
  | .finite negative significand exponent =>
    let magnitude := significand * Nat.pow 2 exponent.toNat / Nat.pow 2 (-exponent).toNat
    if negative then -magnitude else magnitude
  | _ => 0

/-- The double nearest to the quotient of two numbers.  The quotient is taken
with enough digits that one sticky bit decides the rounding. -/
def nearestQuotient (negative : Bool) (numerator denominator : Nat) : Float :=
  let spare := 64 + denominator.log2 - numerator.log2
  let scaled := numerator * Nat.pow 2 spare
  let sticky := if scaled % denominator = 0 then 0 else 1
  nearest negative (2 * (scaled / denominator) + sticky) (-spare - 1)

end SpriteStage.Number
