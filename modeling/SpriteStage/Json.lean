namespace SpriteStage

/-!
# Data values

The values of the data format.  A number is either an integer that fits 64
bits or a double; the two never stand for each other in a value, though an
integer may be asked for as a double.
-/

/-- A number of the data format. -/
inductive JsonNumber where
  /-- An integer from `-2 ^ 63` up to, but not including, `2 ^ 64`. -/
  | integer (value : Int)
  | real (value : Float)
  deriving DecidableEq

/-- A value of the data format. -/
inductive Json where
  | null
  | bool (value : Bool)
  | number (value : JsonNumber)
  | string (value : String)
  | array (items : List Json)
  | object (members : List (String × Json))
  /-- Text that keeps the grammar but stands for no value: a number out of
  range, a string with half a surrogate pair, an object with such a key, or
  a list or object nested too deeply.  It may be skipped but not used. -/
  | void

namespace Json

instance : Inhabited Json := ⟨.null⟩

def ofNat (value : Nat) : Json := .number (.integer value)

def ofFloat (value : Float) : Json := .number (.real value)

mutual

/-- Whether no part of a value is void. -/
def intact : Json -> Bool
  | .void => false
  | .array items => intactItems items
  | .object members => intactMembers members
  | _ => true

def intactItems : List Json -> Bool
  | [] => true
  | item :: rest => intact item && intactItems rest

def intactMembers : List (String × Json) -> Bool
  | [] => true
  | (_, value) :: rest => intact value && intactMembers rest

end

mutual

def depth : Json -> Nat
  | .array items => 1 + depthItems items
  | .object members => 1 + depthMembers members
  | _ => 0

def depthItems : List Json -> Nat
  | [] => 0
  | item :: rest => max (depth item) (depthItems rest)

def depthMembers : List (String × Json) -> Nat
  | [] => 0
  | (_, value) :: rest => max (depth value) (depthMembers rest)

end

end Json

end SpriteStage
