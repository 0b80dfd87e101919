import SpriteStage.Json.Numeral

namespace SpriteStage

/-!
# Taking values apart

A record may be written as an object, whose unknown members are skipped, or
as a list of its fields in order.  A field that is not there is either absent
from an object or cut off the end of a list; what that means is up to the
field.  A variant is named by a tag, which is one member of an object or the
first item of a list.
-/

/-- What a written record holds for one of its fields. -/
inductive Json.Slot where
  | given (value : Json)
  /-- The record is an object without the field. -/
  | absent
  /-- The record is a list that ends before the field. -/
  | cut

namespace Json

def asString : Json -> Option String
  | .string value => some value
  | _ => none

def asBool : Json -> Option Bool
  | .bool value => some value
  | _ => none

def asFloat : Json -> Option Float
  | .number value => some value.toFloat
  | _ => none

/-- The value of a whole number below `2 ^ 64`. -/
def asNatural : Json -> Option Nat
  | .number (.integer value) => if 0 ≤ value ∧ value < UInt64.size then some value.toNat else none
  | _ => none

/-- The value of an integer that fits 64 bits with a sign. -/
def asInt64 : Json -> Option Int64
  | .number (.integer value) =>
    if Int64.minValue.toInt ≤ value ∧ value ≤ Int64.maxValue.toInt then some (Int64.ofInt value)
    else none
  | _ => none

def asArray : Json -> Option (List Json)
  | .array items => some items
  | _ => none

def asListOf {Item : Type} (item : Json -> Option Item) (value : Json) : Option (List Item) :=
  value.asArray.bind fun items => items.mapM item

def asNullable {Content : Type} (content : Json -> Option Content) :
    Json -> Option (Option Content)
  | .null => some none
  | value => (content value).map some

def valuesOf (key : String) (members : List (String × Json)) : List Json :=
  (members.filter fun member => member.1 = key).map Prod.snd

/-- The slot of a field in an object.  A field must not be given twice. -/
def memberSlot (members : List (String × Json)) (key : String) : Option Slot :=
  match valuesOf key members with
  | [] => some .absent
  | [value] => some (.given value)
  | _ => none

/-- The slots of fields in a list, which must not be longer than they are. -/
def itemSlots : (names : List String) -> (items : List Json) -> Option (List Slot)
  | [], [] => some []
  | [], _ :: _ => none
  | _ :: names, [] => (itemSlots names []).map (Slot.cut :: ·)
  | _ :: names, item :: items => (itemSlots names items).map (Slot.given item :: ·)

/-- The slots of the fields with the given names, in order. -/
def slots (names : List String) : Json -> Option (List Slot)
  | .object members => names.mapM (memberSlot members)
  | .array items => itemSlots names items
  | _ => none

namespace Slot

variable {Content : Type}

def required (content : Json -> Option Content) : Slot -> Option Content
  | .given value => content value
  | _ => none

/-- A field that may be `null` and absent, but not cut off. -/
def nullable (content : Json -> Option Content) : Slot -> Option (Option Content)
  | .given value => value.asNullable content
  | .absent => some none
  | .cut => none

/-- A field with a value of its own for when it is not there. -/
def defaulting (default : Content) (content : Json -> Option Content) : Slot -> Option Content
  | .given value => content value
  | _ => some default

end Slot

/-- A variant: its tag, and the record of its fields. -/
structure Variant where
  tag : Json
  fields : Json

/-- Split a variant whose tag is among its fields.  All of it must stand for
values, whether a field asks for them or not. -/
def variant? (key : String) (value : Json) : Option Variant :=
  if value.intact then
    match value with
    | .object members =>
      match valuesOf key members with
      | [tag] => some ⟨tag, .object (members.filter fun member => member.1 ≠ key)⟩
      | _ => none
    | .array (tag :: items) => some ⟨tag, .array items⟩
    | _ => none
  else none

end Json

end SpriteStage
