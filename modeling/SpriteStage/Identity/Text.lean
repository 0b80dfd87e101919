import SpriteStage.Identity

namespace SpriteStage

/-!
# The text of an identifier

An identifier is written as 32 lower-case hexadecimal digits in groups of
8, 4, 4, 4 and 12 that hyphens separate.  Four forms are read, in either
case: the grouped one, the 32 digits alone, the grouped one in braces, and
the grouped one after `urn:uuid:`.  Nothing may stand around them.
-/

namespace Uuid

/-- The hexadecimal digit of a number below 16, in lower case. -/
def hexDigit (value : Nat) : Char :=
  if value < 10 then Char.ofNat (48 + value) else Char.ofNat (87 + value)

def hexValue? (char : Char) : Option Nat :=
  if 48 ≤ char.toNat ∧ char.toNat ≤ 57 then some (char.toNat - 48)
  else if 97 ≤ char.toNat ∧ char.toNat ≤ 102 then some (char.toNat - 87)
  else if 65 ≤ char.toNat ∧ char.toNat ≤ 70 then some (char.toNat - 55)
  else none

/-- The last `count` hexadecimal digits of a number, most significant first. -/
def hexDigits : (count : Nat) -> (value : Nat) -> List Char
  | 0, _ => []
  | count + 1, value => hexDigits count (value / 16) ++ [hexDigit (value % 16)]

/-- The number that hexadecimal digits spell after a number already read. -/
def readHex (value : Nat) : List Char -> Option Nat
  | [] => some value
  | char :: rest =>
    match hexValue? char with
    | some digit => readHex (16 * value + digit) rest
    | none => none

/-- How many digits stand before each hyphen. -/
def groups : List Nat := [8, 4, 4, 4]

/-- Put a hyphen after each group; what is left over comes last. -/
def hyphenate : List Nat -> List Char -> List Char
  | [], digits => digits
  | width :: rest, digits => digits.take width ++ '-' :: hyphenate rest (digits.drop width)

/-- Take the hyphens out again; each must stand right after its group. -/
def unhyphenate : List Nat -> List Char -> Option (List Char)
  | [], text => some text
  | width :: rest, text =>
    match text.drop width with
    | '-' :: tail => (unhyphenate rest tail).map (text.take width ++ ·)
    | _ => none

def toChars (uuid : Uuid) : List Char := hyphenate groups (hexDigits 32 uuid.toNat)

def toText (uuid : Uuid) : String := String.ofList uuid.toChars

/-- Read exactly 32 digits. -/
def readSimple (text : List Char) : Option Uuid :=
  if text.length = 32 then (readHex 0 text).map ofNat else none

/-- Read exactly 36 characters, digits in hyphenated groups. -/
def readGrouped (text : List Char) : Option Uuid :=
  if text.length = 36 then (unhyphenate groups text).bind readSimple else none

/-- What follows `urn:uuid:`, in whatever case that is written. -/
def afterUrn? (text : List Char) : Option (List Char) :=
  if (text.take 9).map Char.toLower = "urn:uuid:".toList then some (text.drop 9) else none

/-- What stands between one pair of braces. -/
def insideBraces? : List Char -> Option (List Char)
  | '\x7b' :: rest => if rest.getLast? = some '\x7d' then some rest.dropLast else none
  | _ => none

/-- Read any of the four forms. -/
def ofChars? (text : List Char) : Option Uuid :=
  (readSimple text).orElse fun _ =>
  (readGrouped text).orElse fun _ =>
  ((insideBraces? text).bind readGrouped).orElse fun _ =>
  (afterUrn? text).bind readGrouped

def ofText? (text : String) : Option Uuid := ofChars? text.toList

end Uuid

def ActorId.toText (id : ActorId) : String := id.uuid.toText

def ActorId.ofText? (text : String) : Option ActorId := (Uuid.ofText? text).map ActorId.mk

def BlockId.toText (id : BlockId) : String := id.uuid.toText

def BlockId.ofText? (text : String) : Option BlockId := (Uuid.ofText? text).map BlockId.mk

end SpriteStage
