import SpriteStage.Json
import SpriteStage.Number.Numeral

namespace SpriteStage

open Number (Numeral digitValue)

/-!
# Numerals of the data format

A numeral without fraction and exponent that fits 64 bits is an integer.
Any other is a double, found by one multiplication or division: the leading
digits that fit a 64-bit word, times or over a power of ten.  This can miss
the nearest double by a unit or two of the last place.  A numeral past the
largest double stands for no number.
-/

namespace Json

/-- One past the largest 64-bit word. -/
def wordLimit : Nat := UInt64.size

/-- Digits taken into a word so far.  `shift` counts the tens by which the
word has to be multiplied, and no digit is taken once one did not fit. -/
structure Leading where
  word : Nat
  shift : Int
  full : Bool

/-- Take a whole digit.  One that does not fit still counts as a place. -/
def Leading.whole (leading : Leading) (char : Char) : Leading :=
  let next := 10 * leading.word + digitValue char
  if leading.full || wordLimit ≤ next then
    { leading with shift := leading.shift + 1, full := true }
  else { leading with word := next }

/-- Take a digit of the fraction.  One that does not fit is dropped. -/
def Leading.fraction (leading : Leading) (char : Char) : Leading :=
  let next := 10 * leading.word + digitValue char
  if leading.full || wordLimit ≤ next then { leading with full := true }
  else { leading with word := next, shift := leading.shift - 1 }

def isInfinite (value : Float) : Bool := value == 1.0 / 0.0 || value == -1.0 / 0.0

def powerOfTen (exponent : Nat) : Float := Number.nearest false (Nat.pow 10 exponent) 0

/-- A word times a power of ten, by one operation on doubles or, far below
one, by two.  There is no result past the largest double. -/
def scaleWord (word : Nat) (exponent : Int) : Option Float :=
  let start := Number.nearest false word 0
  if 0 ≤ exponent then
    if 308 < exponent then
      if word = 0 then some start else none
    else
      let scaled := start * powerOfTen exponent.toNat
      if isInfinite scaled then none else some scaled
  else if -308 ≤ exponent then some (start / powerOfTen (-exponent).toNat)
  else if -616 ≤ exponent then some (start / powerOfTen 308 / powerOfTen (-exponent - 308).toNat)
  else some 0.0

/-- The double of the leading digits of a numeral. -/
def realOf (negative : Bool) (leading : Leading) (exponent : Int) : Option JsonNumber :=
  (scaleWord leading.word (leading.shift + exponent)).map fun value =>
    .real (if negative then -value else value)

/-- The number that a numeral stands for, if there is one.  The numeral `-0`
is a double, because no integer is a negative zero. -/
def numberOf (numeral : Numeral) : Option JsonNumber :=
  let whole := numeral.whole.foldl Leading.whole ⟨0, 0, false⟩
  match numeral.fraction, numeral.exponent with
  | none, none =>
    if whole.full then realOf numeral.negative whole 0
    else if !numeral.negative then some (.integer whole.word)
    else if whole.word = 0 ∨ -(whole.word : Int) < Int64.minValue.toInt then realOf true whole 0
    else some (.integer (-whole.word))
  | fraction, exponent =>
    let digits := fraction.getD []
    let leading := digits.foldl Leading.fraction { whole with full := false }
    realOf numeral.negative leading (exponent.getD 0)

end Json

/-- A number as a double.  An integer is rounded once. -/
def JsonNumber.toFloat : JsonNumber -> Float
  | .integer value => Number.nearest (value < 0) value.natAbs 0
  | .real value => value

end SpriteStage
