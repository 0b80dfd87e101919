import SpriteStage.Codec.Block
import SpriteStage.Settings
import SpriteStage.Event
import SpriteStage.World.Snapshot

namespace SpriteStage

/-!
# Stages as data

Records for everything a renderer reads: actors, events, settings and
snapshots.  Fields are written in the order of their declaration.
-/

namespace Instant

def toJson (instant : Instant) : Json := .string instant.text

def ofJson? (value : Json) : Option Instant := value.asString.bind ofText?

end Instant

namespace Pose

def toJson (pose : Pose) : Json :=
  .object [("x", .ofFloat pose.x), ("y", .ofFloat pose.y), ("heading", .ofFloat pose.heading)]

/-- Read a pose; its heading is taken as it is. -/
def ofJson? (value : Json) : Option Pose := do
  let [x, y, heading] <- value.slots ["x", "y", "heading"] | none
  return ⟨<- x.required Json.asFloat, <- y.required Json.asFloat,
    <- heading.required Json.asFloat⟩

end Pose

namespace Speech

def toJson (speech : Speech) : Json :=
  .object [("message", .string speech.message),
    ("seconds", Json.ofOption Json.ofFloat speech.seconds), ("said_at", speech.spokenAt.toJson)]

def ofJson? (value : Json) : Option Speech := do
  let [message, seconds, spokenAt] <- value.slots ["message", "seconds", "said_at"] | none
  return ⟨<- message.required Json.asString, <- seconds.nullable Json.asFloat,
    <- spokenAt.required Instant.ofJson?⟩

end Speech

namespace Actor

def toJson (actor : Actor) : Json :=
  .object [("id", actor.id.toJson), ("name", .string actor.name), ("pose", actor.pose.toJson),
    ("baseline", actor.baseline.toJson), ("color", .string actor.color),
    ("speech", Json.ofOption Speech.toJson actor.speech)]

def ofJson? (value : Json) : Option Actor := do
  let [id, name, pose, baseline, color, speech] <-
    value.slots ["id", "name", "pose", "baseline", "color", "speech"] | none
  return ⟨<- id.required ActorId.ofJson?, <- name.required Json.asString,
    <- pose.required Pose.ofJson?, <- baseline.required Pose.ofJson?,
    <- color.required Json.asString, <- speech.nullable Speech.ofJson?⟩

end Actor

def Json.ofPoint (point : Float × Float) : Json := .array [.ofFloat point.1, .ofFloat point.2]

def Json.asPoint : Json -> Option (Float × Float)
  | .array [x, y] => do return (<- x.asFloat, <- y.asFloat)
  | _ => none

namespace Collision

def toMembers (collision : Collision) : List (String × Json) :=
  [("first", collision.first.toJson), ("second", collision.second.toJson),
    ("midpoint", Json.ofPoint collision.midpoint), ("at", collision.noticedAt.toJson)]

def toJson (collision : Collision) : Json := .object collision.toMembers

def ofJson? (value : Json) : Option Collision := do
  let [first, second, midpoint, noticedAt] <-
    value.slots ["first", "second", "midpoint", "at"] | none
  return ⟨<- first.required ActorId.ofJson?, <- second.required ActorId.ofJson?,
    <- midpoint.required Json.asPoint, <- noticedAt.required Instant.ofJson?⟩

end Collision

namespace Event

def toJson : Event -> Json
  | .began actors =>
    .object [("event", .string "run_started"), ("actors", .ofNat actors)]
  | .ended => .object [("event", .string "run_stopped")]
  | .reset => .object [("event", .string "reset")]
  | .collision event => .object (("event", .string "collision") :: event.toMembers)
  | .said actor message seconds =>
    .object [("event", .string "said"), ("actor", actor.toJson), ("message", .string message),
      ("seconds", Json.ofOption Json.ofFloat seconds)]

/-- Whether the record of a variant may belong to one without fields: members
are skipped, items are not. -/
def isBare : Json -> Bool
  | .object _ => true
  | .array items => items.isEmpty
  | _ => false

def ofJson? (value : Json) : Option Event := do
  let variant <- value.variant? "event"
  match (<- variant.tag.asString) with
  | "run_started" =>
    let [actors] <- variant.fields.slots ["actors"] | none
    return .began (<- actors.required Json.asNatural)
  | "run_stopped" => if isBare variant.fields then some .ended else none
  | "reset" => if isBare variant.fields then some .reset else none
  | "collision" => return .collision (<- Collision.ofJson? variant.fields)
  | "said" =>
    let [actor, message, seconds] <- variant.fields.slots ["actor", "message", "seconds"] | none
    return .said (<- actor.required ActorId.ofJson?) (<- message.required Json.asString)
      (<- seconds.nullable Json.asFloat)
  | _ => none

end Event

namespace Settings

def toJson (settings : Settings) : Json :=
  .object [("tick_interval_ms", .ofNat settings.interval.toNat),
    ("collision_radius", .ofFloat settings.radius),
    ("spawn_spread", .ofFloat settings.spread),
    ("seed", Json.ofOption (fun seed : UInt64 => Json.ofNat seed.toNat) settings.seed),
    ("debug", .bool settings.debug)]

def asWord (value : Json) : Option UInt64 := value.asNatural.map UInt64.ofNat

/-- Read settings.  Fields that are not there keep their standard
values. -/
def ofJson? (value : Json) : Option Settings := do
  let [interval, radius, spread, seed, debug] <-
    value.slots ["tick_interval_ms", "collision_radius", "spawn_spread", "seed", "debug"] | none
  return ⟨<- interval.defaulting standard.interval asWord,
    <- radius.defaulting standard.radius Json.asFloat,
    <- spread.defaulting standard.spread Json.asFloat,
    <- seed.defaulting standard.seed (Json.asNullable asWord),
    <- debug.defaulting standard.debug Json.asBool⟩

end Settings

namespace OwnedProgram

def toJson (program : OwnedProgram) : Json :=
  .object [("actor", program.actor.toJson), ("blocks", .array (Forest.toItems program.blocks))]

def ofJson? (value : Json) : Option OwnedProgram := do
  let [actor, blocks] <- value.slots ["actor", "blocks"] | none
  return ⟨<- actor.required ActorId.ofJson?,
    <- blocks.required (Json.asListOf Block.ofJson?)⟩

end OwnedProgram

namespace Snapshot

def toJson (snapshot : Snapshot) : Json :=
  .object [("running", .bool snapshot.running),
    ("actors", .array (snapshot.actors.map Actor.toJson)),
    ("programs", .array (snapshot.programs.map OwnedProgram.toJson)),
    ("total_blocks", .ofNat snapshot.blockCount)]

def ofJson? (value : Json) : Option Snapshot := do
  let [running, actors, programs, blockCount] <-
    value.slots ["running", "actors", "programs", "total_blocks"] | none
  return ⟨<- running.required Json.asBool, <- actors.required (Json.asListOf Actor.ofJson?),
    <- programs.required (Json.asListOf OwnedProgram.ofJson?),
    <- blockCount.required Json.asNatural⟩

end Snapshot

end SpriteStage
