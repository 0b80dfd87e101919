import SpriteStage.Number.Binary

namespace SpriteStage.Number

/-!
# Distances

The length of the hypotenuse over two legs.  The root of the sum of the
squares is improved by one correction step, and legs whose squares would
over- or underflow are scaled first by a power of two.  The powers of two are
built from their exponents, so that a distance is computed in the logic as it
is when the program runs.
-/

/-- The hypotenuse over two legs with harmless squares.  The root of their sum
is corrected by half its relative excess over the legs. -/
def correctedRoot (long short : Float) : Float :=
  let root := (long * long + short * short).sqrt
  let excess :=
    if root ≤ 2.0 * short then
      let beyond := root - short
      long * (2.0 * beyond - long) + (beyond - 2.0 * (long - short)) * beyond
    else
      let beyond := root - long
      2.0 * beyond * (long - 2.0 * short) + ((4.0 * beyond - short) * short + beyond * beyond)
  root - excess / (2.0 * root)

/-- The hypotenuse over two finite legs that are not negative, the longer one
first.  A leg too short to matter is added to the other. -/
def hypotenuse (long short : Float) : Float :=
  let scale := nearest false 1 600
  let negligible := nearest false 1 (-54)
  if nearest false 1 511 < long then
    if short ≤ long * negligible then long + short
    else correctedRoot (long / scale) (short / scale) * scale
  else if short < nearest false 1 (-459) then
    if short / negligible ≤ long then long + short
    else correctedRoot (long * scale) (short * scale) / scale
  else if short ≤ long * negligible then long + short
  else correctedRoot long short

/-- The distance that two legs at a right angle span.  An infinite leg makes
it infinite even beside an undefined one. -/
def distance (across along : Float) : Float :=
  let across := across.abs
  let along := along.abs
  if across.isInf || along.isInf then 1.0 / 0.0
  else if across.isNaN || along.isNaN then 0.0 / 0.0
  else if across < along then hypotenuse along across
  else hypotenuse across along

end SpriteStage.Number
