import SpriteStage.Actor.Pose
import SpriteStage.Identity
import SpriteStage.Instant

namespace SpriteStage

/-!
# Actors

An actor is a sprite with a name, a colour and a pose.  It remembers the pose
it was created with, and it may show a speech bubble.
-/

structure Speech where
  message : String
  /-- How long the bubble shows; without a limit it shows until the next one. -/
  seconds : Option Float
  spokenAt : Instant
  deriving DecidableEq

/-- A sprite on the stage. -/
structure Actor where
  id : ActorId
  name : String
  pose : Pose
  /-- The pose that a reset restores. -/
  baseline : Pose
  color : String
  speech : Option Speech
  deriving DecidableEq

namespace Actor

/-- A silent actor at its baseline. -/
def create (id : ActorId) (name : String) (pose : Pose) (color : String) : Actor :=
  ⟨id, name, pose, pose, color, none⟩

/-- The actor somewhere else.  The heading is wrapped, also when it is kept. -/
def placed (actor : Actor) (x y : Float) (heading : Option Float) : Actor :=
  { actor with pose := Pose.facing x y (heading.getD actor.pose.heading) }

def renamed (actor : Actor) (name : String) : Actor := { actor with name := name }

def saying (actor : Actor) (message : String) (seconds : Option Float) (now : Instant) : Actor :=
  { actor with speech := some ⟨message, seconds, now⟩ }

def silent (actor : Actor) : Actor := { actor with speech := none }

/-- The actor as it was created, under its present name. -/
def restored (actor : Actor) : Actor := { actor with pose := actor.baseline, speech := none }

end Actor

end SpriteStage
