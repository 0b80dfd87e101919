import SpriteStage.Timeline.Feed
import SpriteStage.World.Edit
import SpriteStage.World.Run

namespace SpriteStage

/-!
# Timelines

A timeline is a world with a clock.  A session drives a run: for each driven
actor it starts a driver, which ticks the actor at once and then once a
period.  A driver stops for good when its actor or its run is gone.  Drivers
only act while the clock advances, in the order in which they fall due; of
those due at the same time, the one that began to wait first acts first.
What ticks announce goes to the feed of the listener.
-/

/-- What ticks one actor for a run. -/
structure Driver where
  /-- The session that started the driver. -/
  session : Nat
  actor : ActorId
  generation : Nat
  /-- The time of its next tick. -/
  due : Nat
  deriving DecidableEq

/-- A hold on the drivers of a run. -/
structure Session where
  number : Nat
  generation : Nat
  /-- How many drivers the session started. -/
  drivers : Nat
  deriving DecidableEq

/-- A world with a clock, in milliseconds. -/
structure Timeline where
  world : World
  feed : EventFeed
  /-- Whether there is something that advances the clock. -/
  hasClock : Bool
  clock : Nat
  /-- The time between two ticks of a driver. -/
  period : Nat
  period_pos : 0 < period
  /-- The drivers that still tick, in the order in which they began to wait. -/
  waiting : List Driver
  /-- How many sessions have started. -/
  sessions : Nat
  /-- The time of day at each time of the clock. -/
  timeOfDay : Nat -> Instant

namespace Timeline

def ofWorld (world : World) (settings : Settings) (hasClock : Bool)
    (timeOfDay : Nat -> Instant) : Timeline where
  world := world
  feed := EventFeed.empty
  hasClock := hasClock
  clock := 0
  period := settings.period
  period_pos := settings.period_pos
  waiting := []
  sessions := 0
  timeOfDay := timeOfDay

def now (timeline : Timeline) : Instant := timeline.timeOfDay timeline.clock

def publish (timeline : Timeline) (events : List Event) : Timeline :=
  { timeline with feed := timeline.feed.publish events }

def deliver (timeline : Timeline) : Delivery × Timeline :=
  (timeline.feed.deliver, { timeline with feed := EventFeed.empty })

/-- Give the feed to a new listener, who sees nothing of what came before. -/
def subscribe (timeline : Timeline) : Timeline := { timeline with feed := EventFeed.empty }

def edit {Result : Type} (timeline : Timeline) (edit : World -> Edited Result) :
    Except Refusal Result × Timeline :=
  let edited := edit timeline.world
  (edited.outcome, { timeline with world := edited.world })

/-- Start a session: begin a run, or join the active one, and start a driver
for each driven actor. -/
def start (timeline : Timeline) : Except Refusal (Session × Timeline) :=
  if timeline.hasClock then
    let (generation, world) := timeline.world.start
    let driven := (world.run.map Run.driven).getD []
    let number := timeline.sessions
    let drivers := driven.map fun actor => Driver.mk number actor generation timeline.clock
    let started :=
      { timeline with
        world := world
        waiting := timeline.waiting ++ drivers
        sessions := number + 1 }
    .ok (⟨number, generation, driven.length⟩, started.publish [.began driven.length])
  else .error .noClock

/-- Stop the drivers of a session.  The run of the world goes on. -/
def cancel (timeline : Timeline) (session : Session) : Timeline :=
  { timeline with
    waiting := timeline.waiting.filter fun driver => driver.session ≠ session.number }

/-- End the run of the world and announce it, if there is one. -/
def close (timeline : Timeline) : Timeline :=
  let (ended, world) := timeline.world.finish
  let finished := { timeline with world := world }
  if ended then finished.publish [.ended] else finished

/-- Whether a driver falls due before another, or at the same time. -/
def dueBefore (one other : Driver) : Bool := one.due ≤ other.due

def earliest (candidate : Driver) : List Driver -> Driver
  | [] => candidate
  | driver :: rest => earliest (if dueBefore candidate driver then candidate else driver) rest

/-- The driver to act next up to a time. -/
def nextDue (waiting : List Driver) (limit : Nat) : Option Driver :=
  match waiting with
  | [] => none
  | driver :: rest =>
    let next := earliest driver rest
    if next.due ≤ limit then some next else none

/-- Let a driver tick its actor.  It waits again if the actor and the run are
still there. -/
def act (timeline : Timeline) (driver : Driver) : Timeline :=
  let clock := max timeline.clock driver.due
  let waiting := timeline.waiting.erase driver
  let (outcome, world) :=
    timeline.world.tick driver.actor driver.generation (timeline.timeOfDay clock)
  let ticked := { timeline with world := world, clock := clock, waiting := waiting }
  match outcome with
  | .acted events =>
    let again := { driver with due := driver.due + timeline.period }
    { ticked with waiting := waiting ++ [again] }.publish events
  | .outdated => ticked
  | .vacant => ticked

/-- Let drivers act while one is due up to a time, a bounded number of times. -/
def actUntil (limit : Nat) : (fuel : Nat) -> Timeline -> Timeline
  | 0, timeline => timeline
  | fuel + 1, timeline =>
    match nextDue timeline.waiting limit with
    | none => timeline
    | some driver => actUntil limit fuel (timeline.act driver)

/-- How often drivers can act up to a time: each at most once a millisecond. -/
def maxActions (waiting : List Driver) (limit : Nat) : Nat :=
  waiting.foldr (fun driver actions => limit + 1 - driver.due + actions) 0

/-- Advance the clock and let every driver act that falls due on the way. -/
def advance (timeline : Timeline) (milliseconds : Nat) : Timeline :=
  let limit := timeline.clock + milliseconds
  let acted := actUntil limit (maxActions timeline.waiting limit) timeline
  { acted with clock := limit }

end Timeline

end SpriteStage
