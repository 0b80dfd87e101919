import SpriteStage.Codec.Block
import SpriteStage.Json.Reader
import SpriteStage.Scene

namespace SpriteStage

/-!
# Scenes as data

Most fields of a scene may be left out: an actor needs only a name, a block
only a kind.
-/

mutual

def SceneBlock.toJson : SceneBlock -> Json
  | ⟨kind, children⟩ =>
    .object [("kind", kind.toJson), ("children", .array (SceneBlock.toItems children))]

def SceneBlock.toItems : List SceneBlock -> List Json
  | [] => []
  | block :: rest => block.toJson :: SceneBlock.toItems rest

end

/-- Read a block that is nested at most `levels` deep. -/
def SceneBlock.ofLevels? : (levels : Nat) -> Json -> Option SceneBlock
  | 0, _ => none
  | levels + 1, value => do
    let [kind, children] <- value.slots ["kind", "children"] | none
    return ⟨<- kind.required Kind.ofJson?,
      <- children.defaulting [] (Json.asListOf (SceneBlock.ofLevels? levels))⟩

def SceneBlock.ofJson? (value : Json) : Option SceneBlock := SceneBlock.ofLevels? value.depth value

namespace SceneActor

def toJson (actor : SceneActor) : Json :=
  .object [("name", .string actor.name), ("x", .ofFloat actor.x), ("y", .ofFloat actor.y),
    ("heading", .ofFloat actor.heading), ("color", Json.ofOption Json.string actor.color),
    ("program", .array (SceneBlock.toItems actor.program))]

def ofJson? (value : Json) : Option SceneActor := do
  let [name, x, y, heading, color, program] <-
    value.slots ["name", "x", "y", "heading", "color", "program"] | none
  return ⟨<- name.required Json.asString, <- x.defaulting 0.0 Json.asFloat,
    <- y.defaulting 0.0 Json.asFloat, <- heading.defaulting 90.0 Json.asFloat,
    <- color.defaulting none (Json.asNullable Json.asString),
    <- program.defaulting [] (Json.asListOf SceneBlock.ofJson?)⟩

end SceneActor

namespace Scene

def toJson (scene : Scene) : Json :=
  .object [("actors", .array (scene.actors.map SceneActor.toJson))]

def ofJson? (value : Json) : Option Scene := do
  let [actors] <- value.slots ["actors"] | none
  return ⟨<- actors.defaulting [] (Json.asListOf SceneActor.ofJson?)⟩

def ofText (text : String) : Except Refusal Scene :=
  match (Json.ofText? text).bind ofJson? with
  | some scene => .ok scene
  | none => .error .undecodable

end Scene

end SpriteStage
