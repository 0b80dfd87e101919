import SpriteStage.Actor.Cast
import SpriteStage.Overlap
import SpriteStage.Settings
import SpriteStage.Progress
import SpriteStage.Programs

namespace SpriteStage

/-!
# Worlds

A world holds the actors, their programs and the active run, if there is one.
What belongs to a run, its progress and its debounce set, exists only as long
as the run.
-/

structure Run where
  /-- How many runs of the world have begun, this one included. -/
  generation : Nat
  progress : Progress
  debounce : Debounce
  /-- The actors that were there when the run began, in order. -/
  driven : List ActorId

structure World where
  cast : Cast
  programs : Programs
  run : Option Run
  radius : Float
  /-- How many runs have begun. -/
  generations : Nat

namespace World

/-- A world without programs.  A seed in the settings wins over the other one. -/
def ofActors (actors : List Actor) (settings : Settings) (entropy : UInt64) : World where
  cast := Cast.ofActors actors (settings.seed.getD entropy) settings.spread
  programs := Programs.empty
  run := none
  radius := settings.radius
  generations := 0

/-- A world of given actors, of which there must be one. -/
def populated (actors : List Actor) (settings : Settings) (entropy : UInt64) :
    Except Refusal World :=
  if actors.isEmpty then .error (.settings .noActors) else .ok (ofActors actors settings entropy)

def standard (first second : ActorId) (settings : Settings) (entropy : UInt64) : World :=
  ofActors (Cast.standardActors first second) settings entropy

def isActive (world : World) : Bool := world.run.isSome

def blockCount (world : World) : Nat := world.programs.blockCount

end World

end SpriteStage
