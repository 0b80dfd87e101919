import SpriteStage.Number.Shortest

namespace SpriteStage.Number

/-!
# Layouts of numbers

A layout turns the shortest decimal of a double into text.  There are two:
the one of data texts, which always shows a fraction or an exponent, and the
one of messages, which never shows an exponent.  Reports print a fixed number
of places instead, rounded from the exact value.
-/

def digitChars (number : Nat) : List Char := Nat.toDigits 10 number

structure Layout where
  /-- Exponents of the first digit that are written without an exponent. -/
  positional : Int -> Bool
  /-- What follows a whole number written without an exponent. -/
  wholeTail : List Char
  tie : Tie

namespace Layout

/-- Data texts: positional from 10⁻⁵ up to 10¹⁶, whole numbers with `.0`. -/
def data : Layout where
  positional exponent := -5 ≤ exponent && exponent < 16
  wholeTail := ['.', '0']
  tie := .toEven

/-- Messages: always positional, whole numbers bare. -/
def message : Layout where
  positional _ := true
  wholeTail := []
  tie := .up

/-- Digits with the first at a power of ten, written without an exponent. -/
def positionalChars (layout : Layout) (digits : List Char) (exponent : Int) : List Char :=
  if exponent < 0 then
    '0' :: '.' :: (List.replicate (-exponent - 1).toNat '0' ++ digits)
  else
    let before := exponent.toNat + 1
    if digits.length ≤ before then
      digits ++ List.replicate (before - digits.length) '0' ++ layout.wholeTail
    else digits.take before ++ '.' :: digits.drop before

/-- Digits with the first at a power of ten, written with an exponent. -/
def scientificChars (digits : List Char) (exponent : Int) : List Char :=
  let mantissa :=
    match digits with
    | [] => []
    | [digit] => [digit]
    | digit :: rest => digit :: '.' :: rest
  mantissa ++ 'e' :: (if exponent < 0 then '-' else '+') :: digitChars exponent.natAbs

def decimalChars (layout : Layout) (decimal : Decimal) : List Char :=
  if layout.positional decimal.exponent then
    layout.positionalChars (digitChars decimal.digits) decimal.exponent
  else scientificChars (digitChars decimal.digits) decimal.exponent

def finiteChars (layout : Layout) (negative : Bool) (significand : Nat) (exponent : Int) :
    List Char :=
  (if negative then ['-'] else []) ++
    if significand = 0 then '0' :: layout.wholeTail
    else layout.decimalChars (shortest significand exponent layout.tie)

/-- The text of a double.  What is not finite has a word of its own. -/
def chars (layout : Layout) (value : Float) : List Char :=
  match Binary.ofFloat value with
  | .undefined => "NaN".toList
  | .infinite negative => (if negative then "-inf" else "inf").toList
  | .finite negative significand exponent => layout.finiteChars negative significand exponent

end Layout

def messageText (value : Float) : String := String.ofList (Layout.message.chars value)

/-- A number of units of the last place, written with that many places. -/
def placesChars (places units : Nat) : List Char :=
  let digits := digitChars units
  let padded := List.replicate (places + 1 - digits.length) '0' ++ digits
  padded.take (padded.length - places) ++ '.' :: padded.drop (padded.length - places)

/-- The text of a double with a fixed, positive number of places: its exact
value rounded half to even, with the sign even of a zero. -/
def fixedText (places : Nat) (value : Float) : String :=
  match Binary.ofFloat value with
  | .undefined => "NaN"
  | .infinite negative => if negative then "-inf" else "inf"
  | .finite negative significand exponent =>
    let units := roundDiv (significand * Nat.pow 2 exponent.toNat * Nat.pow 10 places)
      (Nat.pow 2 (-exponent).toNat) .toEven
    String.ofList ((if negative then ['-'] else []) ++ placesChars places units)

end SpriteStage.Number
