import SpriteStage.Codec.Block
import SpriteStage.Json.Reader

namespace SpriteStage

/-!
# Drop gestures

A drag on the authoring side delivers a small record.  It asks either to move
a block that exists, or to place a new one from the palette, with parameters.
Parameters that the kind does not have are ignored.
-/

inductive Drop where
  | move (id : BlockId)
  | create (node : Block)

/-- The record that a drag delivers. -/
structure DropRecord where
  moving : Bool
  id : Option String
  family : Option String
  action : Option String
  params : List (String × Parameter)
  deriving DecidableEq

namespace DropRecord

/-- Read the parameters, in the order in which they are written. -/
def paramsOfJson? : Json -> Option (List (String × Parameter))
  | .object members =>
    members.mapM fun member => (Parameter.ofJson? member.2).map fun value => (member.1, value)
  | _ => none

def ofJson? (value : Json) : Option DropRecord := do
  let [moving, id, family, action, params] <-
    value.slots ["isMoving", "id", "type", "action", "params"] | none
  return ⟨<- moving.defaulting false Json.asBool, <- id.nullable Json.asString,
    <- family.nullable Json.asString, <- action.nullable Json.asString,
    <- params.defaulting [] paramsOfJson?⟩

/-- Set parameters one after the other, so that of two values for one name the
later counts.  A parameter that the kind does not have changes nothing. -/
def applyParams (kind : Kind) : List (String × Parameter) -> Kind
  | [] => kind
  | (name, value) :: rest =>
    match kind.set name value with
    | .ok changed => applyParams changed rest
    | .error _ => applyParams kind rest

/-- What the record asks for.  A new block without an identifier of its own
takes the fresh one. -/
def request (payload : DropRecord) (fresh : BlockId) (id : Option BlockId) :
    Except DropRefusal Drop :=
  if payload.moving then
    match id with
    | some block => .ok (.move block)
    | none => .error .noId
  else
    let family := payload.family.getD ""
    let action := payload.action.getD ""
    match Kind.ofPalette? family action with
    | none => .error (.noKind family action)
    | some kind =>
      .ok (.create (Block.unplaced (id.getD fresh) (applyParams kind payload.params)))

end DropRecord

namespace Drop

/-- Read what a drop asks for.  An identifier that is none is refused before
anything else of the record is looked at. -/
def ofText (fresh : BlockId) (text : String) : Except DropRefusal Drop :=
  match (Json.ofText? text).bind DropRecord.ofJson? with
  | none => .error .malformed
  | some payload =>
    match payload.id with
    | none => payload.request fresh none
    | some raw =>
      match BlockId.ofText? raw with
      | none => .error (.badId raw)
      | some id => payload.request fresh (some id)

end Drop

end SpriteStage
