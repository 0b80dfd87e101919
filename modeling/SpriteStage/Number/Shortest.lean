import SpriteStage.Number.Binary

namespace SpriteStage.Number

/-!
# Shortest decimals

A finite double is the nearest one to every real in an interval around it.
Its shortest decimal is the one with the fewest digits in that interval, and
of those the nearest to the double.  For one digit, then two, and so on, the
two neighbours of the double on the decimal grid are tested in exact
arithmetic; if any point of a grid lies in the interval, a neighbour does.
-/

/-- A positive decimal `0.d₁d₂… * 10 ^ (exponent + 1)`: the digits as one
whole number, and the exponent of the first of them. -/
structure Decimal where
  digits : Nat
  exponent : Int
  deriving DecidableEq

/-- The reals that round to a positive double, in units of a common
denominator: the double itself, the two ends, and whether the ends count. -/
structure RoundingInterval where
  value : Nat
  low : Nat
  high : Nat
  denominator : Nat
  inclusive : Bool

namespace RoundingInterval

/-- The interval of `significand * 2 ^ exponent`.  The gap below a power of
two is half as wide as the one above it. -/
def ofBinary (significand : Nat) (exponent : Int) : RoundingInterval :=
  let narrow := significand = Binary.leadingBit ∧ Binary.lowest < exponent
  let up := Nat.pow 2 (exponent - 2).toNat
  { value := 4 * significand * up
    low := (4 * significand - if narrow then 1 else 2) * up
    high := (4 * significand + 2) * up
    denominator := Nat.pow 2 (2 - exponent).toNat
    inclusive := significand % 2 == 0 }

def shift (interval : RoundingInterval) (places : Int) : RoundingInterval :=
  let up := Nat.pow 10 places.toNat
  { value := interval.value * up
    low := interval.low * up
    high := interval.high * up
    denominator := interval.denominator * Nat.pow 10 (-places).toNat
    inclusive := interval.inclusive }

def contains (interval : RoundingInterval) (number : Nat) : Bool :=
  let scaled := number * interval.denominator
  if interval.inclusive then interval.low ≤ scaled && scaled ≤ interval.high
  else interval.low < scaled && scaled < interval.high

/-- The whole number in the interval nearest to its value, if it holds one of
the value's two neighbours. -/
def nearestWhole? (interval : RoundingInterval) (tie : Tie) : Option Nat :=
  let below := interval.value / interval.denominator
  let near := roundDiv interval.value interval.denominator tie
  let far := if near = below then below + 1 else below
  if interval.contains near then some near
  else if interval.contains far then some far
  else none

end RoundingInterval

def digitCount (number : Nat) : Nat := (Nat.toDigits 10 number).length

/-- The exponent of the first decimal digit of `numerator / denominator`. -/
def decimalExponent (numerator denominator : Nat) : Int :=
  let guess : Int := (digitCount numerator : Int) - digitCount denominator
  let scaled := numerator * Nat.pow 10 (-guess).toNat
  if scaled < denominator * Nat.pow 10 guess.toNat then guess - 1 else guess

/-- The shortest decimal among those of `count`, `count + 1`, … digits.  After
`tries` counts without one, the nearest decimal of the last count is taken;
seventeen digits always lie in the interval. -/
def shortestFrom (interval : RoundingInterval) (first : Int) (tie : Tie) :
    (tries : Nat) -> (count : Nat) -> Nat
  | 0, count =>
    let grid := interval.shift (count - 1 - first)
    roundDiv grid.value grid.denominator tie
  | tries + 1, count =>
    match (interval.shift (count - 1 - first)).nearestWhole? tie with
    | some digits => digits
    | none => shortestFrom interval first tie tries (count + 1)

def stripZeros : (fuel : Nat) -> Nat -> Nat
  | 0, number => number
  | fuel + 1, number =>
    if number ≠ 0 ∧ number % 10 = 0 then stripZeros fuel (number / 10) else number

/-- The shortest decimal of a positive finite double, 17 digits at most.
Rounding up can reach the next power of ten, which moves the first digit. -/
def shortest (significand : Nat) (exponent : Int) (tie : Tie) : Decimal :=
  let interval := RoundingInterval.ofBinary significand exponent
  let first := decimalExponent interval.value interval.denominator
  let digits := shortestFrom interval first tie 16 1
  if digits = 10 then ⟨1, first + 1⟩ else ⟨stripZeros 17 digits, first⟩

end SpriteStage.Number
