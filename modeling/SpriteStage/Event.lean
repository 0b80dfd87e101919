import SpriteStage.Identity
import SpriteStage.Instant

namespace SpriteStage

/-!
# Events

What a stage announces to whoever shows it.
-/

/-- Two actors began to overlap, and exchanged their programs. -/
structure Collision where
  /-- The actor with the lower identifier. -/
  first : ActorId
  second : ActorId
  /-- The point halfway between the two. -/
  midpoint : Float × Float
  noticedAt : Instant
  deriving DecidableEq

inductive Event where
  /-- A run began that drives a number of actors. -/
  | began (actors : Nat)
  | ended
  /-- All actors went back to their baselines. -/
  | reset
  | collision (event : Collision)
  | said (actor : ActorId) (message : String) (seconds : Option Float)
  deriving DecidableEq

end SpriteStage
