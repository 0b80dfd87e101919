import SpriteStage.Json
import SpriteStage.Json.Text
import SpriteStage.Number.Layout

namespace SpriteStage.Json

/-!
# Writing data texts

The compact form has no space at all.  The indented form puts every item on
a line of its own, two spaces deeper than what holds it.  A double that is
not finite has no numeral and is written as `null`.
-/

def integerChars : Int -> List Char
  | .ofNat value => Number.digitChars value
  | .negSucc value => '-' :: Number.digitChars (value + 1)

def numberChars : JsonNumber -> List Char
  | .integer value => integerChars value
  | .real value => if value.isFinite then Number.Layout.data.chars value else "null".toList

mutual

/-- The compact text of a value. -/
def chars : Json -> List Char
  | .null => "null".toList
  | .void => "null".toList
  | .bool true => "true".toList
  | .bool false => "false".toList
  | .number value => numberChars value
  | .string value => quote value
  | .array [] => ['[', ']']
  | .array (item :: rest) => '[' :: (chars item ++ itemsChars rest)
  | .object [] => ['\x7b', '\x7d']
  | .object ((key, value) :: rest) =>
    '\x7b' :: (quote key ++ ':' :: (chars value ++ membersChars rest))

/-- The items after the first one, and the closing bracket. -/
def itemsChars : List Json -> List Char
  | [] => [']']
  | item :: rest => ',' :: (chars item ++ itemsChars rest)

/-- The members after the first one, and the closing brace. -/
def membersChars : List (String × Json) -> List Char
  | [] => ['\x7d']
  | (key, value) :: rest => ',' :: (quote key ++ ':' :: (chars value ++ membersChars rest))

end

def toText (value : Json) : String := String.ofList value.chars

/-- The start of a line at a depth. -/
def lineStart (depth : Nat) : List Char := '\n' :: List.replicate (2 * depth) ' '

mutual

/-- The indented text of a value whose lines start at a depth. -/
def indentedChars (depth : Nat) : Json -> List Char
  | .array (item :: rest) =>
    '[' :: (lineStart (depth + 1) ++ indentedChars (depth + 1) item ++ indentedItems depth rest)
  | .object ((key, value) :: rest) =>
    '\x7b' :: (lineStart (depth + 1) ++ quote key ++ ':' :: ' ' ::
      (indentedChars (depth + 1) value ++ indentedMembers depth rest))
  | value => chars value

def indentedItems (depth : Nat) : List Json -> List Char
  | [] => lineStart depth ++ [']']
  | item :: rest =>
    ',' :: (lineStart (depth + 1) ++ indentedChars (depth + 1) item ++ indentedItems depth rest)

def indentedMembers (depth : Nat) : List (String × Json) -> List Char
  | [] => lineStart depth ++ ['\x7d']
  | (key, value) :: rest =>
    ',' :: (lineStart (depth + 1) ++ quote key ++ ':' :: ' ' ::
      (indentedChars (depth + 1) value ++ indentedMembers depth rest))

end

def toIndentedText (value : Json) : String := String.ofList (value.indentedChars 0)

end SpriteStage.Json
