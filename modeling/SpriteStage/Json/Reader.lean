import SpriteStage.Json.Numeral
import SpriteStage.Json.Text

namespace SpriteStage.Json

open Number (Numeral splitDigits readFractionPart readExponentPart)

/-!
# Reading data texts

The grammar is checked over the whole text, also in parts that nobody asks
for.  What keeps the grammar but stands for no value becomes `void`, so that
a reader of the value can still skip it.  Lists and objects may be nested
127 deep.
-/

def nestingLimit : Nat := 127

/-- Whether a character may stand between the parts of a text. -/
def isSpace (char : Char) : Bool :=
  char == ' ' || char == '\n' || char == '\t' || char == '\r'

def skipSpace (text : List Char) : List Char := text.dropWhile isSpace

/-- Drop a word that the text must start with. -/
def dropWord : (word : List Char) -> (text : List Char) -> Option (List Char)
  | [], text => some text
  | _ :: _, [] => none
  | expected :: word, char :: rest => if char = expected then dropWord word rest else none

def readMinus : List Char -> Bool × List Char
  | '-' :: rest => (true, rest)
  | text => (false, text)

/-- Whether whole digits have no needless zero in front. -/
def isCanonicalWhole : List Char -> Bool
  | [] => false
  | '0' :: _ :: _ => false
  | _ => true

def readNumeral (text : List Char) : Option (Numeral × List Char) :=
  let (negative, afterSign) := readMinus text
  let (whole, afterWhole) := splitDigits afterSign
  let (fraction, afterFraction) := readFractionPart afterWhole
  if !isCanonicalWhole whole || fraction = some [] then none
  else
    match readExponentPart afterFraction with
    | some (exponent, rest) => some (⟨negative, whole, fraction, exponent⟩, rest)
    | none => none

/-- Read a string after its opening quote; there is none when a half of a
surrogate pair stands alone. -/
def readString (text : List Char) : Option (Option String × List Char) :=
  (readUnits text).map fun found => ((joinHalves found.1).map String.ofList, found.2)

mutual

/-- Read one value, where `room` more lists and objects may be opened.  Each
call spends fuel, and every character pays for at most two calls. -/
def readValue : (fuel : Nat) -> (room : Nat) -> List Char -> Option (Json × List Char)
  | 0, _, _ => none
  | fuel + 1, room, text =>
    match skipSpace text with
    | [] => none
    | '"' :: rest =>
      match readString rest with
      | some (some value, tail) => some (.string value, tail)
      | some (none, tail) => some (.void, tail)
      | none => none
    | '[' :: rest =>
      let items :=
        match skipSpace rest with
        | ']' :: tail => some ([], tail)
        | start => readItems fuel (room - 1) start
      match items with
      | some (values, tail) => some (if room = 0 then .void else .array values, tail)
      | none => none
    | '\x7b' :: rest =>
      let members :=
        match skipSpace rest with
        | '\x7d' :: tail => some (some [], tail)
        | start => readMembers fuel (room - 1) start
      match members with
      | some (some fields, tail) => some (if room = 0 then .void else .object fields, tail)
      | some (none, tail) => some (.void, tail)
      | none => none
    | 'n' :: rest => (dropWord ['u', 'l', 'l'] rest).map fun tail => (.null, tail)
    | 't' :: rest => (dropWord ['r', 'u', 'e'] rest).map fun tail => (.bool true, tail)
    | 'f' :: rest => (dropWord ['a', 'l', 's', 'e'] rest).map fun tail => (.bool false, tail)
    | start =>
      match readNumeral start with
      | some (numeral, tail) =>
        match numberOf numeral with
        | some amount => some (.number amount, tail)
        | none => some (.void, tail)
      | none => none

def readItems : (fuel : Nat) -> (room : Nat) -> List Char -> Option (List Json × List Char)
  | 0, _, _ => none
  | fuel + 1, room, text =>
    match readValue fuel room text with
    | none => none
    | some (item, afterItem) =>
      match skipSpace afterItem with
      | ']' :: tail => some ([item], tail)
      | ',' :: rest =>
        match readItems fuel room rest with
        | some (items, tail) => some (item :: items, tail)
        | none => none
      | _ => none

/-- Read the members of an object up to its closing brace.  One key that is
no string spoils the whole object, but not the reading of it. -/
def readMembers :
    (fuel : Nat) -> (room : Nat) -> List Char -> Option (Option (List (String × Json)) × List Char)
  | 0, _, _ => none
  | fuel + 1, room, text =>
    match skipSpace text with
    | '"' :: afterQuote =>
      match readString afterQuote with
      | none => none
      | some (key, afterKey) =>
        match skipSpace afterKey with
        | ':' :: afterColon =>
          match readValue fuel room afterColon with
          | none => none
          | some (value, afterValue) =>
            let member := key.map fun name => (name, value)
            match skipSpace afterValue with
            | '\x7d' :: tail => some (member.map ([·]), tail)
            | ',' :: rest =>
              match readMembers fuel room rest with
              | some (members, tail) =>
                some (member.bind fun first => members.map (first :: ·), tail)
              | none => none
            | _ => none
        | _ => none
    | _ => none

end

/-- Read a whole text: one value with nothing but space around it. -/
def ofChars? (text : List Char) : Option Json :=
  match readValue (2 * text.length + 2) nestingLimit text with
  | some (value, rest) => if (skipSpace rest).isEmpty then some value else none
  | none => none

def ofText? (text : String) : Option Json := ofChars? text.toList

end SpriteStage.Json
