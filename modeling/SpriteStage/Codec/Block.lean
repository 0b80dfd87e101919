import SpriteStage.Block.Forest
import SpriteStage.Json.Fields
import SpriteStage.Json.Printer

namespace SpriteStage

/-!
# Blocks as data

A kind is written as its family and, beside it, a record of the action and
its parameters.  A block is a record with its children inside.
-/

namespace ActorId

def toJson (id : ActorId) : Json := .string id.toText

def ofJson? (value : Json) : Option ActorId := value.asString.bind ofText?

end ActorId

namespace BlockId

def toJson (id : BlockId) : Json := .string id.toText

def ofJson? (value : Json) : Option BlockId := value.asString.bind ofText?

end BlockId

/-- A value that may be missing, as data. -/
def Json.ofOption {Content : Type} (content : Content -> Json) : Option Content -> Json
  | some value => content value
  | none => .null

namespace Parameter

def toJson : Parameter -> Json
  | .number value => .ofFloat value
  | .text value => .string value

def ofJson? : Json -> Option Parameter
  | .number value => some (.number value.toFloat)
  | .string value => some (.text value)
  | _ => none

end Parameter

namespace Motion

def toJson : Motion -> Json
  | .move steps => .object [("action", .string "move"), ("steps", .ofFloat steps)]
  | .turn degrees => .object [("action", .string "turn"), ("degrees", .ofFloat degrees)]
  | .goTo x y => .object [("action", .string "go_to"), ("x", .ofFloat x), ("y", .ofFloat y)]

def actions : List String := ["move", "turn", "go_to"]

def ofFields? (action : String) (fields : Json) : Option Motion :=
  match action with
  | "move" => do
    let [steps] <- fields.slots ["steps"] | none
    return .move (<- steps.required Json.asFloat)
  | "turn" => do
    let [degrees] <- fields.slots ["degrees"] | none
    return .turn (<- degrees.required Json.asFloat)
  | "go_to" => do
    let [x, y] <- fields.slots ["x", "y"] | none
    return .goTo (<- x.required Json.asFloat) (<- y.required Json.asFloat)
  | _ => none

end Motion

namespace Control

def toJson : Control -> Json
  | .times count =>
    .object [("action", .string "repeat"), ("repeatCount", .number (.integer count.toInt))]

def actions : List String := ["repeat"]

def ofFields? (action : String) (fields : Json) : Option Control :=
  match action with
  | "repeat" => do
    let [count] <- fields.slots ["repeatCount"] | none
    return .times (<- count.required Json.asInt64)
  | _ => none

end Control

namespace Look

def toJson : Look -> Json
  | .say message => .object [("action", .string "say"), ("message", .string message)]
  | .sayFor message seconds =>
    .object [("action", .string "say_for_seconds"), ("message", .string message),
      ("seconds", .ofFloat seconds)]

def actions : List String := ["say", "say_for_seconds"]

def ofFields? (action : String) (fields : Json) : Option Look :=
  match action with
  | "say" => do
    let [message] <- fields.slots ["message"] | none
    return .say (<- message.required Json.asString)
  | "say_for_seconds" => do
    let [message, seconds] <- fields.slots ["message", "seconds"] | none
    return .sayFor (<- message.required Json.asString) (<- seconds.required Json.asFloat)
  | _ => none

end Look

namespace Kind

def toJson : Kind -> Json
  | .motion command => .object [("family", .string "motion"), ("block", command.toJson)]
  | .control command => .object [("family", .string "control"), ("block", command.toJson)]
  | .look command => .object [("family", .string "look"), ("block", command.toJson)]

/-- Read the name of a family, which may also be the key of a `null`. -/
def familyOf? : Json -> Option String
  | .string name => some name
  | .object [(name, .null)] => some name
  | _ => none

/-- Read the name of an action.  It may be given as its place among the names
if `numbered`. -/
def actionOf? (numbered : Bool) (names : List String) : Json -> Option String
  | .string name => some name
  | .number (.integer (.ofNat place)) => if numbered then names[place]? else none
  | _ => none

def ofParts? (numbered : Bool) (family block : Json) : Option Kind := do
  let name <- familyOf? family
  let variant <- block.variant? "action"
  match name with
  | "motion" =>
    return .motion (<- Motion.ofFields? (<- actionOf? numbered Motion.actions variant.tag)
      variant.fields)
  | "control" =>
    return .control (<- Control.ofFields? (<- actionOf? numbered Control.actions variant.tag)
      variant.fields)
  | "look" =>
    return .look (<- Look.ofFields? (<- actionOf? numbered Look.actions variant.tag)
      variant.fields)
  | _ => none

/-- Whether the block of a kind is written before its family. -/
def blockFirst (members : List (String × Json)) : Bool :=
  match members.find? fun member => member.1 = "family" || member.1 = "block" with
  | some member => member.1 = "block"
  | none => false

/-- Read a kind.  An action may be numbered if it stands before the family. -/
def ofJson? : Json -> Option Kind
  | .object members =>
    match Json.valuesOf "family" members, Json.valuesOf "block" members with
    | [family], [block] => ofParts? (blockFirst members) family block
    | _, _ => none
  | .array [family, block] => ofParts? false family block
  | _ => none

end Kind

mutual

def Block.toJson : Block -> Json
  | ⟨id, kind, actor, parent, children⟩ =>
    .object [("id", id.toJson), ("kind", kind.toJson), ("actor", actor.toJson),
      ("parent", Json.ofOption BlockId.toJson parent),
      ("children", .array (Forest.toItems children))]

def Forest.toItems : Forest -> List Json
  | [] => []
  | node :: rest => node.toJson :: Forest.toItems rest

end

/-- Read a tree that is nested at most `levels` deep. -/
def Block.ofLevels? : (levels : Nat) -> Json -> Option Block
  | 0, _ => none
  | levels + 1, value => do
    let [id, kind, actor, parent, children] <-
      value.slots ["id", "kind", "actor", "parent", "children"] | none
    return ⟨<- id.required BlockId.ofJson?, <- kind.required Kind.ofJson?,
      <- actor.required ActorId.ofJson?, <- parent.nullable BlockId.ofJson?,
      <- children.required (Json.asListOf (Block.ofLevels? levels))⟩

def Block.ofJson? (value : Json) : Option Block := Block.ofLevels? value.depth value

end SpriteStage
