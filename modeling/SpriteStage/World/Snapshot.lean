import SpriteStage.World

namespace SpriteStage

/-!
# Snapshots

A snapshot is what a renderer needs to know of a world: the actors, their
programs in the same order, whether a run is active, and the number of blocks.
-/

structure OwnedProgram where
  actor : ActorId
  blocks : Forest

structure Snapshot where
  running : Bool
  actors : List Actor
  programs : List OwnedProgram
  blockCount : Nat

def World.snapshot (world : World) : Snapshot where
  running := world.isActive
  actors := world.cast.actors
  programs := world.cast.actors.map fun actor => ⟨actor.id, world.programs.forest actor.id⟩
  blockCount := world.blockCount

end SpriteStage
