import SpriteStage.Walk
import SpriteStage.World

namespace SpriteStage

/-!
# Runs of a world

A run begins with fresh progress for every block, and it drives the actors
that are there then, also those that have no program yet.  A tick of an actor
walks its program and then sweeps for collisions: actors that began to overlap
exchange their programs, which start over.
-/

inductive Tick where
  | acted (events : List Event)
  /-- The run that the tick was meant for is not active. -/
  | outdated
  /-- The actor is not there any more. -/
  | vacant
  deriving DecidableEq

namespace World

/-- Begin a run, unless one is active, and give the generation of the run. -/
def start (world : World) : Nat × World :=
  match world.run with
  | some run => (run.generation, world)
  | none =>
    let generation := world.generations + 1
    let run : Run :=
      { generation := generation
        progress := Progress.start world.programs.programs
        debounce := Debounce.empty
        driven := world.cast.ids }
    (generation,
      { world with cast := world.cast.hush, run := some run, generations := generation })

/-- End the run and tell whether there was one.  The actors stay where they are. -/
def finish (world : World) : Bool × World := (world.run.isSome, { world with run := none })

def restore (world : World) : World := { world with cast := world.cast.reset }

def step (actor : ActorId) (now : Instant) (world : World) : List Event × World :=
  match world.run with
  | none => ([], world)
  | some run =>
    let walk := tickProgram actor now (world.programs.forest actor) world.cast run.progress
    (walk.events,
      { world with cast := walk.cast, run := some { run with progress := walk.progress } })

/-- The progress of an actor whose program starts over. -/
def restart (programs : Programs) (actor : ActorId) (progress : Progress) : Progress :=
  progress.seed actor (programs.forest actor)

/-- Let two actors that began to overlap exchange their programs.  Nothing
happens when one of them is gone. -/
def collide (now : Instant) (pair : ActorPair) (world : World) : List Event × World :=
  match world.run, world.cast.get? pair.first, world.cast.get? pair.second with
  | some run, some first, some second =>
    let programs := world.programs.exchange pair.first pair.second
    let forgotten := (run.progress.forget pair.first).forget pair.second
    let progress := restart programs pair.second (restart programs pair.first forgotten)
    ([.collision ⟨pair.first, pair.second, first.pose.midpoint second.pose, now⟩],
      { world with programs := programs, run := some { run with progress := progress } })
  | _, _, _ => ([], world)

/-- Do something to a world for each item of a list and collect the events. -/
def collect {Item : Type} (action : Item -> World -> List Event × World) :
    List Item -> World -> List Event × World
  | [], world => ([], world)
  | item :: rest, world =>
    let (events, next) := action item world
    let (later, final) := collect action rest next
    (events ++ later, final)

/-- Let all pairs that began to overlap collide, in the order in which they
are found. -/
def sweep (now : Instant) (world : World) : List Event × World :=
  match world.run with
  | none => ([], world)
  | some run =>
    let (started, debounce) :=
      run.debounce.refresh (pairsAmong world.radius world.cast.actors)
    collect (collide now) started { world with run := some { run with debounce := debounce } }

/-- Tick one actor for the run of a generation, then sweep. -/
def tick (actor : ActorId) (generation : Nat) (now : Instant) (world : World) :
    Tick × World :=
  match world.run with
  | none => (.outdated, world)
  | some run =>
    if run.generation = generation then
      if world.cast.contains actor then
        let (said, stepped) := world.step actor now
        let (collisions, swept) := stepped.sweep now
        (.acted (said ++ collisions), swept)
      else (.vacant, world)
    else (.outdated, world)

/-- Walk the program of an actor once, unless the actor is gone. -/
def stepPresent (now : Instant) (actor : ActorId) (world : World) : List Event × World :=
  if world.cast.contains actor then world.step actor now else ([], world)

/-- Walk the programs of all driven actors once, then sweep once. -/
def tickTogether (now : Instant) (world : World) : List Event × World :=
  match world.run with
  | none => ([], world)
  | some run =>
    let (said, stepped) := collect (stepPresent now) run.driven world
    let (collisions, swept) := stepped.sweep now
    (said ++ collisions, swept)

end World

end SpriteStage
