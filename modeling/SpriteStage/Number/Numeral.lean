import SpriteStage.Number.Binary

namespace SpriteStage.Number

/-!
# Decimal numerals

A numeral is a sign, whole digits, perhaps a fraction and perhaps an
exponent.  Its exact value is rounded once to the nearest double; that is how
numbers typed as text are read.
-/

def digitValue (char : Char) : Nat := char.toNat - 48

def splitDigits (text : List Char) : List Char × List Char :=
  (text.takeWhile Char.isDigit, text.dropWhile Char.isDigit)

def readDigits (digits : List Char) : Nat :=
  digits.foldl (fun value char => 10 * value + digitValue char) 0

/-- The parts of a numeral, with the digits as they are written. -/
structure Numeral where
  negative : Bool
  whole : List Char
  fraction : Option (List Char)
  exponent : Option Int
  deriving DecidableEq

/-- The double nearest to `digits * 10 ^ scale`, negated if asked. -/
def nearestDecimal (negative : Bool) (digits : Nat) (scale : Int) : Float :=
  if 0 ≤ scale then nearest negative (digits * Nat.pow 10 scale.toNat) 0
  else nearestQuotient negative digits (Nat.pow 10 (-scale).toNat)

/-- The double nearest to the exact value of a numeral.  A value far outside
the range of doubles is settled by its size alone. -/
def Numeral.exact (numeral : Numeral) : Float :=
  let fraction := numeral.fraction.getD []
  let digits := readDigits (numeral.whole ++ fraction)
  let scale := numeral.exponent.getD 0 - fraction.length
  let size := scale + digits.log2 * 30103 / 100000
  if digits = 0 ∨ size < -800 then ofMagnitude numeral.negative 0
  else if 800 < size then ofMagnitude numeral.negative Binary.infinityBits
  else nearestDecimal numeral.negative digits scale

def readSign : List Char -> Bool × List Char
  | '+' :: rest => (false, rest)
  | '-' :: rest => (true, rest)
  | text => (false, text)

/-- Read the digits of an exponent and its sign. -/
def readExponent (text : List Char) : Option (Int × List Char) :=
  let (negative, afterSign) := readSign text
  let (digits, rest) := splitDigits afterSign
  if digits.isEmpty then none
  else
    let magnitude : Int := readDigits digits
    some (if negative then -magnitude else magnitude, rest)

/-- Read the exponent of a numeral, which may be missing but not empty. -/
def readExponentPart : List Char -> Option (Option Int × List Char)
  | 'e' :: rest => (readExponent rest).map fun found => (some found.1, found.2)
  | 'E' :: rest => (readExponent rest).map fun found => (some found.1, found.2)
  | text => some (none, text)

/-- Read the fraction of a numeral; there may be no digit after the point. -/
def readFractionPart : List Char -> Option (List Char) × List Char
  | '.' :: rest => let (digits, rest) := splitDigits rest; (some digits, rest)
  | text => (none, text)

/-- Read a numeral as people type it: a sign of either kind, digits before or
after the point, perhaps an exponent, and nothing else. -/
def typedNumeral? (text : List Char) : Option Numeral :=
  let (negative, afterSign) := readSign text
  let (whole, afterWhole) := splitDigits afterSign
  let (fraction, afterFraction) := readFractionPart afterWhole
  if whole.isEmpty && (fraction.getD []).isEmpty then none
  else
    match readExponentPart afterFraction with
    | some (exponent, []) => some ⟨negative, whole, fraction, exponent⟩
    | _ => none

end SpriteStage.Number
