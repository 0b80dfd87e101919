import SpriteStage.Identity.Text
import SpriteStage.Number.Layout

namespace SpriteStage

/-!
# Refusals

Every operation that can refuse says why with a value of one of these types.
The wording is in one function per type.  A refusal met inside a larger
operation keeps its own words after a heading for the part it came from.
-/

inductive ProgramRefusal where
  | noBlock (block : BlockId)
  /-- The parent is not in the forest of the actor, though it may be in another. -/
  | noParent (parent : BlockId) (actor : ActorId)
  | taken (block : BlockId)
  | noContainer (block : BlockId)
  /-- The parent is the block itself or below it. -/
  | cycle (block parent : BlockId)
  | noParameter (kind name : String)
  deriving DecidableEq

def ProgramRefusal.message : ProgramRefusal -> String
  | .noBlock block => s!"Block {block.toText} not found"
  | .noParent parent actor =>
    s!"Parent block {parent.toText} not found in forest of actor {actor.toText}"
  | .taken block => s!"Block {block.toText} already exists"
  | .noContainer block => s!"Block {block.toText} cannot hold children"
  | .cycle block parent =>
    s!"Cannot move block {block.toText} under its own descendant {parent.toText}"
  | .noParameter kind name => s!"Block kind '{kind}' has no parameter '{name}'"

inductive CastRefusal where
  | noActor (actor : ActorId)
  | lastActor (actor : ActorId)
  deriving DecidableEq

def CastRefusal.message : CastRefusal -> String
  | .noActor actor => s!"Actor {actor.toText} not found"
  | .lastActor actor =>
    s!"Refusing to remove actor {actor.toText}: at least one actor must remain"

/-- Why an actor could not be spawned: there is no uniform draw from a square
without bounds. -/
inductive SpawnRefusal where
  | unboundedSpread
  deriving DecidableEq

inductive DropRefusal where
  | malformed
  | noKind (family action : String)
  | badId (text : String)
  | noId
  deriving DecidableEq

def DropRefusal.message : DropRefusal -> String
  | .malformed => "Malformed payload: the text is not a payload"
  | .noKind family action => s!"Unknown block {family}/{action}"
  | .badId text => s!"Invalid block id '{text}'"
  | .noId => "Move payload is missing a block id"

inductive SettingRefusal where
  | badRadius (radius : Float)
  | badSpread (spread : Float)
  | noActors
  deriving DecidableEq

def SettingRefusal.message : SettingRefusal -> String
  | .badRadius radius =>
    s!"collision_radius must be a non-negative number, got {Number.messageText radius}"
  | .badSpread spread =>
    s!"spawn_spread must be a non-negative number, got {Number.messageText spread}"
  | .noActors => "a stage needs at least one actor"

inductive Refusal where
  | program (cause : ProgramRefusal)
  | cast (cause : CastRefusal)
  | drop (cause : DropRefusal)
  | settings (cause : SettingRefusal)
  /-- There is no clock to drive a run. -/
  | noClock
  /-- A file is missing or is not text. -/
  | unreadable
  /-- A text is not a value of the type that was asked for. -/
  | undecodable
  deriving DecidableEq

def Refusal.message : Refusal -> String
  | .program cause => s!"Program error: {cause.message}"
  | .cast cause => s!"Actor error: {cause.message}"
  | .drop cause => s!"Payload error: {cause.message}"
  | .settings cause => s!"Configuration error: {cause.message}"
  | .noClock => "No tokio runtime available to drive the run"
  | .unreadable => "IO error: the file is missing or not text"
  | .undecodable => "JSON error: the text does not decode"

end SpriteStage
