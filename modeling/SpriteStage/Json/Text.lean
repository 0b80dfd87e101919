import SpriteStage.Identity.Text

namespace SpriteStage.Json

/-!
# Strings of the data format

A string is written between double quotes, with escapes for the quote, the
backslash and the control characters.  Reading goes in two steps.  The
grammar first turns the text into code units, in which an escape may leave
half of a surrogate pair; joining the pairs then gives the characters, and
fails when a half is left alone.
-/

def readUnit (first second third fourth : Char) : Option Nat :=
  Uuid.readHex 0 [first, second, third, fourth]

/-- The code point that an escape of one letter stands for. -/
def escapeUnit? (letter : Char) : Option Nat :=
  match letter with
  | '"' => some 34
  | '\\' => some 92
  | '/' => some 47
  | 'b' => some 8
  | 'f' => some 12
  | 'n' => some 10
  | 'r' => some 13
  | 't' => some 9
  | _ => none

/-- Read the rest of a string after its opening quote: its code units, and
what follows the closing quote.  Control characters must be escaped. -/
def readUnits : List Char -> Option (List Nat × List Char)
  | [] => none
  | '"' :: rest => some ([], rest)
  | '\\' :: 'u' :: first :: second :: third :: fourth :: rest =>
    match readUnit first second third fourth, readUnits rest with
    | some unit, some (units, tail) => some (unit :: units, tail)
    | _, _ => none
  | '\\' :: letter :: rest =>
    match escapeUnit? letter, readUnits rest with
    | some unit, some (units, tail) => some (unit :: units, tail)
    | _, _ => none
  | char :: rest =>
    if char.toNat < 32 then none
    else (readUnits rest).map fun found => (char.toNat :: found.1, found.2)

/-- Whether a code unit is the first half of a surrogate pair. -/
def isLeadingHalf (unit : Nat) : Bool := 0xd800 ≤ unit && unit < 0xdc00

def isTrailingHalf (unit : Nat) : Bool := 0xdc00 ≤ unit && unit < 0xe000

/-- The characters of code units, if every half of a pair has the other. -/
def joinHalves : List Nat -> Option (List Char)
  | [] => some []
  | unit :: rest =>
    if isTrailingHalf unit then none
    else if isLeadingHalf unit then
      match rest with
      | [] => none
      | next :: tail =>
        if isTrailingHalf next then
          (joinHalves tail).map
            (Char.ofNat (0x10000 + (unit - 0xd800) * 0x400 + (next - 0xdc00)) :: ·)
        else none
    else (joinHalves rest).map (Char.ofNat unit :: ·)

/-- How a character is written inside a string. -/
def escapeChar (char : Char) : List Char :=
  match char with
  | '"' => ['\\', '"']
  | '\\' => ['\\', '\\']
  | '\n' => ['\\', 'n']
  | '\r' => ['\\', 'r']
  | '\t' => ['\\', 't']
  | '\x08' => ['\\', 'b']
  | '\x0c' => ['\\', 'f']
  | _ => if char.toNat < 32 then '\\' :: 'u' :: Uuid.hexDigits 4 char.toNat else [char]

/-- A string as it is written, quotes included. -/
def quote (value : String) : List Char := '"' :: (value.toList.flatMap escapeChar ++ ['"'])

end SpriteStage.Json
