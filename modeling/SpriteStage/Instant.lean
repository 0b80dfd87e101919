namespace SpriteStage

/-!
# Instants

An instant is a time of the civil calendar in UTC, kept as the text that
names it: `year-month-dayThour:minute:second`, perhaps a fraction of a second
of up to nine digits, and `Z`.  The text must name a day that exists.
-/

namespace Instant

def isLeap (year : Nat) : Bool := year % 4 == 0 && (year % 100 != 0 || year % 400 == 0)

/-- The number of days of a month; months outside 1 to 12 have none. -/
def daysIn (year month : Nat) : Nat :=
  match month with
  | 2 => if isLeap year then 29 else 28
  | 4 | 6 | 9 | 11 => 30
  | 1 | 3 | 5 | 7 | 8 | 10 | 12 => 31
  | _ => 0

/-- The number that exactly `count` decimal digits spell, and what follows. -/
def readFixed : (count : Nat) -> (value : Nat) -> List Char -> Option (Nat × List Char)
  | 0, value, text => some (value, text)
  | _ + 1, _, [] => none
  | count + 1, value, char :: rest =>
    if char.isDigit then readFixed count (10 * value + (char.toNat - 48)) rest else none

/-- Digits of a given count with a character after them. -/
def readPart (count : Nat) (closing : Char) (text : List Char) : Option (Nat × List Char) :=
  match readFixed count 0 text with
  | some (value, char :: rest) => if char = closing then some (value, rest) else none
  | _ => none

/-- Whether a text ends an instant: perhaps a fraction, and the zone. -/
def isTail : List Char -> Bool
  | ['Z'] => true
  | '.' :: rest =>
    let digits := rest.takeWhile Char.isDigit
    1 ≤ digits.length && digits.length ≤ 9 && rest.dropWhile Char.isDigit == ['Z']
  | _ => false

/-- Whether a text names an instant.  A minute may have a leap second. -/
def isText (text : List Char) : Bool :=
  (do
    let (year, afterYear) <- readPart 4 '-' text
    let (month, afterMonth) <- readPart 2 '-' afterYear
    let (day, afterDay) <- readPart 2 'T' afterMonth
    let (hour, afterHour) <- readPart 2 ':' afterDay
    let (minute, afterMinute) <- readPart 2 ':' afterHour
    let (second, tail) <- readFixed 2 0 afterMinute
    return 1 ≤ day && day ≤ daysIn year month && hour < 24 && minute < 60 && second ≤ 60
      && isTail tail).getD false

end Instant

/-- A time of the civil calendar in UTC. -/
structure Instant where
  text : String
  valid : Instant.isText text.toList = true
  deriving DecidableEq

namespace Instant

def ofText? (text : String) : Option Instant :=
  if valid : isText text.toList = true then some ⟨text, valid⟩ else none

def epoch : Instant := ⟨"1970-01-01T00:00:00Z", by decide⟩

instance : Inhabited Instant := ⟨epoch⟩

@[simp] theorem ofText?_text (instant : Instant) : ofText? instant.text = some instant :=
  dif_pos instant.valid

end Instant

end SpriteStage
