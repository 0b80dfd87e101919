import SpriteStage.Drop
import SpriteStage.Timeline
import SpriteStage.World.Snapshot

namespace SpriteStage

/-!
# Stages

A stage is what the authoring and the rendering side work with.  It has at
most one session at a time.  Edits never fail loudly: one that is refused is
reported as not done, without a reason.
-/

structure Stage where
  settings : Settings
  timeline : Timeline
  session : Option Session

namespace Stage

def ofWorld (world : World) (settings : Settings) (hasClock : Bool)
    (timeOfDay : Nat -> Instant) : Stage :=
  ⟨settings, Timeline.ofWorld world settings hasClock timeOfDay, none⟩

def world (stage : Stage) : World := stage.timeline.world

def isActive (stage : Stage) : Bool := stage.session.isSome

/-- Start a session and tell whether there was none. -/
def run (stage : Stage) : Except Refusal (Bool × Stage) :=
  match stage.session with
  | some _ => .ok (false, stage)
  | none =>
    match stage.timeline.start with
    | .ok (session, timeline) =>
      .ok (true, { stage with timeline := timeline, session := some session })
    | .error refusal => .error refusal

/-- Stop the session, end the run, and tell whether there was a session. -/
def stop (stage : Stage) : Bool × Stage :=
  match stage.session with
  | none => (false, stage)
  | some session =>
    (true, { stage with timeline := (stage.timeline.cancel session).close, session := none })

/-- Stop the session and wait until its drivers have stopped. -/
def shutdown (stage : Stage) : Stage := stage.stop.2

/-- Stop the session and put every actor back to its baseline. -/
def reset (stage : Stage) : Stage :=
  let stopped := stage.stop.2
  let timeline := stopped.timeline
  let restored := { timeline with world := timeline.world.restore }
  { stopped with timeline := restored.publish [.reset] }

def advance (stage : Stage) (milliseconds : Nat) : Stage :=
  { stage with timeline := stage.timeline.advance milliseconds }

/-- Edit the world; a refusal gives no result. -/
def edit {Result : Type} (stage : Stage) (edit : World -> Edited Result) :
    Option Result × Stage :=
  let (outcome, timeline) := stage.timeline.edit edit
  (outcome.toOption, { stage with timeline := timeline })

def spawn (stage : Stage) (fresh : ActorId) : Except SpawnRefusal Stage :=
  (stage.world.spawn fresh).map fun world =>
    { stage with timeline := { stage.timeline with world := world } }

def move (stage : Stage) (id : BlockId) (actor : ActorId) (parent : Option BlockId) :
    Option BlockId × Stage :=
  let (done, moved) := stage.edit fun world => world.move id actor parent
  (done.map fun _ => id, moved)

/-- Do what a drop onto the program of an actor asks for, and give the
identifier of the block it concerned. -/
def drop (stage : Stage) (fresh : BlockId) (payload : String) (actor : ActorId)
    (parent : Option BlockId) : Option BlockId × Stage :=
  match Drop.ofText fresh payload with
  | .error _ => (none, stage)
  | .ok (.move id) => stage.move id actor parent
  | .ok (.create node) => stage.edit fun world => world.insert node parent actor

def snapshot (stage : Stage) : Snapshot := stage.world.snapshot

end Stage

end SpriteStage
