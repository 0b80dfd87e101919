import SpriteStage.Actor.Cast
import SpriteStage.Event
import SpriteStage.Progress

namespace SpriteStage

/-!
# One tick of one actor

A tick walks the program of an actor in sequence.  A command that is not done
takes effect and is done.  A block that repeats its body walks through it
once; when all of the body is done, a round is complete, and unless it was
the last one the body starts over at the next tick.
-/

structure Walk where
  cast : Cast
  progress : Progress
  /-- The events of the walk so far. -/
  events : List Event

namespace Walk

def moved (command : Motion) (actor : Actor) : Actor :=
  let pose := actor.pose
  match command with
  | .move steps =>
    let (dx, dy) := Pose.stepDelta pose.heading steps
    actor.placed (pose.x + dx) (pose.y + dy) none
  | .turn degrees => actor.placed pose.x pose.y (some (pose.heading + degrees))
  | .goTo x y => actor.placed x y none

def speech : Look -> String × Option Float
  | .say message => (message, none)
  | .sayFor message seconds => (message, some seconds)

/-- Carry a motion command out.  Without the actor there is no effect. -/
def move (actor : ActorId) (command : Motion) (walk : Walk) : Walk :=
  { walk with cast := walk.cast.modify actor (moved command) }

/-- Carry a look command out.  Without the actor there is no effect and no
event. -/
def look (actor : ActorId) (now : Instant) (command : Look) (walk : Walk) : Walk :=
  if walk.cast.contains actor then
    let (message, seconds) := speech command
    { walk with
      cast := walk.cast.modify actor fun speaker => speaker.saying message seconds now
      events := walk.events ++ [.said actor message seconds] }
  else walk

def finish (actor : ActorId) (id : BlockId) (kind : Kind) (walk : Walk) : Walk :=
  { walk with progress := walk.progress.markFinished actor id kind }

def allFinished (actor : ActorId) (forest : Forest) (walk : Walk) : Bool :=
  forest.all fun node => walk.progress.isFinished actor node.id

/-- Count a round whose body is done.  After the last one the block is done;
after any other the body starts over. -/
def closeRound (actor : ActorId) (id : BlockId) (kind : Kind) (target : Nat)
    (children : Forest) (walk : Walk) : Walk :=
  let (completed, progress) := walk.progress.completeRound actor id kind
  if target ≤ completed then { walk with progress := progress.markFinished actor id kind }
  else { walk with progress := progress.seed actor children }

mutual

def stepNode (actor : ActorId) (now : Instant) : Block -> Walk -> Walk
  | ⟨id, kind, _, _, children⟩, walk =>
    if walk.progress.isFinished actor id then walk
    else
      match kind with
      | .motion command => (walk.move actor command).finish actor id kind
      | .look command => (walk.look actor now command).finish actor id kind
      | .control _ =>
        let entry := walk.progress.entryOf actor id kind
        let target := entry.target.getD 1
        let opened := { walk with progress := walk.progress.ensure actor id kind }
        if target ≤ entry.completed then opened.finish actor id kind
        else
          let inside := stepForest actor now children opened
          if inside.allFinished actor children then inside.closeRound actor id kind target children
          else inside

def stepForest (actor : ActorId) (now : Instant) : Forest -> Walk -> Walk
  | [], walk => walk
  | node :: rest, walk => stepForest actor now rest (stepNode actor now node walk)

end

end Walk

/-- One tick of the program of an actor: the cast and the progress after it,
and the events of it. -/
def tickProgram (actor : ActorId) (now : Instant) (program : Forest) (cast : Cast)
    (progress : Progress) : Walk :=
  Walk.stepForest actor now program ⟨cast, progress, []⟩

end SpriteStage
