import Mathlib.Logic.Relation
import SpriteStage.Proofs.Stage.Script
import SpriteStage.Proofs.World.Round
import SpriteStage.Stage

namespace SpriteStage

/-!
# Calls and drivers in any order

A call that begins or ends a run does several things, one after the other, and
only each of them happens at once.  In between, and at any other time, any
driver that was ever started may try to tick its actor, also one whose run has
ended.  A tick and the announcement of its events happen at once.

The relation `Backstage.Step` says what can happen next.  The calls of a stage
are paths of it, and what a driver does when the clock lets it act is an
attempt.  Calls that do nothing, as to run a stage that runs, are no steps.
-/

/-- How far a call that begins or ends a run has come. -/
inductive Phase where
  /-- No such call is under way. -/
  | between
  /-- The run has begun; its generation and its actors are known. -/
  | begun (generation : Nat) (driven : List ActorId)
  /-- The run is announced; some actors still need a driver. -/
  | staffing (generation actors : Nat) (left : List ActorId)
  /-- The drivers are cancelled and the run is to end, perhaps for a reset. -/
  | closing (thenReset : Bool)
  /-- No run is active, and the actors are to go back to their baselines. -/
  | closed
  /-- The actors went back, and this is to be announced. -/
  | restored
  deriving DecidableEq

namespace Stage

def withWorld (stage : Stage) (world : World) : Stage :=
  { stage with timeline := { stage.timeline with world := world } }

def publish (stage : Stage) (events : List Event) : Stage :=
  { stage with timeline := stage.timeline.publish events }

/-- The events that were announced since the stage exists or a listener read them. -/
def announced (stage : Stage) : List Event := stage.timeline.feed.unread

/-- What a session of the stage calls an actor of a run to be ticked. -/
def driverFor (stage : Stage) (generation : Nat) (actor : ActorId) : Driver :=
  ⟨stage.timeline.sessions, actor, generation, stage.timeline.clock⟩

def withDriver (stage : Stage) (driver : Driver) : Stage :=
  { stage with timeline :=
      { stage.timeline with waiting := stage.timeline.waiting ++ [driver] } }

def withSession (stage : Stage) (generation drivers : Nat) : Stage :=
  { stage with
    timeline := { stage.timeline with sessions := stage.timeline.sessions + 1 }
    session := some ⟨stage.timeline.sessions, generation, drivers⟩ }

end Stage

inductive Request where
  | spawn (fresh : ActorId)
  | rename (actor : ActorId) (name : String)
  | place (actor : ActorId) (x y heading : Float)
  | dismiss (actor : ActorId)
  | insert (node : Block) (parent : Option BlockId) (actor : ActorId)
  | remove (block : BlockId)
  | move (block : BlockId) (actor : ActorId) (parent : Option BlockId)
  | adjust (block : BlockId) (name : String) (value : Parameter)
  | drop (fresh : BlockId) (payload : String) (actor : ActorId) (parent : Option BlockId)

namespace Request

def perform (stage : Stage) : Request -> Stage
  | .spawn fresh =>
    match stage.spawn fresh with
    | .ok next => next
    | .error _ => stage
  | .rename actor name => (stage.edit fun world => world.rename actor name).2
  | .place actor x y heading => (stage.edit fun world => world.place actor x y heading).2
  | .dismiss actor => (stage.edit fun world => world.dismiss actor).2
  | .insert node parent actor => (stage.edit fun world => world.insert node parent actor).2
  | .remove block => (stage.edit fun world => world.remove block).2
  | .move block actor parent => (stage.move block actor parent).2
  | .adjust block name value => (stage.edit fun world => world.adjust block name value).2
  | .drop fresh payload actor parent => (stage.drop fresh payload actor parent).2

/-- The operation on the world that an edit comes to, if it comes to one. -/
def operation? : Request -> Option Operation
  | .spawn fresh => some (.spawn fresh)
  | .rename actor name => some (.rename actor name)
  | .place actor x y heading => some (.place actor x y heading)
  | .dismiss actor => some (.dismiss actor)
  | .insert node parent actor => some (.insert node parent actor)
  | .remove block => some (.remove block)
  | .move block actor parent => some (.move block actor parent)
  | .adjust block name value => some (.adjust block name value)
  | .drop fresh payload actor parent =>
    match Drop.ofText fresh payload with
    | .error _ => none
    | .ok (.move block) => some (.move block actor parent)
    | .ok (.create node) => some (.insert node parent actor)

/-- An edit changes the world as its operation does, and nothing else. -/
theorem perform_eq_apply (stage : Stage) (request : Request) :
    request.perform stage = stage.withWorld
      (request.operation?.elim stage.world fun operation => operation.apply stage.world) := by
  cases request with
  | spawn fresh =>
    rw [perform, Stage.spawn, operation?, Option.elim_some, Operation.apply]
    cases stage.world.spawn fresh <;> rfl
  | drop fresh payload actor parent =>
    rw [perform, Stage.drop, operation?]
    cases Drop.ofText fresh payload with
    | error refusal => rfl
    | ok drop => cases drop <;> rfl
  | _ => rfl

theorem world_perform (stage : Stage) (request : Request) :
    (request.perform stage).world =
      request.operation?.elim stage.world fun operation => operation.apply stage.world := by
  rw [perform_eq_apply]
  rfl

/-- No edit begins or ends a run. -/
theorem operation?_edits {request : Request} {operation : Operation}
    (asked : request.operation? = some operation) :
    operation ≠ .start ∧ operation ≠ .finish := by
  cases request with
  | drop fresh payload actor parent =>
    rw [operation?] at asked
    split at asked <;> cases asked <;> exact ⟨nofun, nofun⟩
  | _ =>
    cases asked
    exact ⟨nofun, nofun⟩

end Request

/-- A stage with the call under way, all drivers that were ever started, and
what was announced, each event with its origin. -/
structure Backstage where
  stage : Stage
  phase : Phase
  drivers : List Driver
  log : List Notice

namespace Backstage

/-- The beginning: a world on a stage that something advances the clock of. -/
def opening (world : World) (settings : Settings) (timeOfDay : Nat -> Instant) : Backstage :=
  ⟨Stage.ofWorld world settings true timeOfDay, .between, [], []⟩

/-- The beginning of any stage: nothing was called, and no driver was started. -/
def ofStage (stage : Stage) : Backstage := ⟨stage, .between, [], []⟩

/-- A driver tries to tick its actor and announces what comes of it. -/
def attempt (driver : Driver) (now : Instant) (state : Backstage) : Backstage :=
  let ticked := state.stage.world.tick driver.actor driver.generation now
  { state with
    stage := (state.stage.withWorld ticked.2).publish ticked.1.events
    log := state.log ++ ticked.1.events.map (Notice.scene driver) }

theorem world_attempt (driver : Driver) (now : Instant) (state : Backstage) :
    (state.attempt driver now).stage.world =
      (Operation.tick driver.actor driver.generation now).apply state.stage.world := rfl

inductive Step : Backstage -> Backstage -> Prop
  /-- A call to run a stage begins a run of the world. -/
  | begin {stage : Stage} {drivers : List Driver} {log : List Notice}
      (hasClock : stage.timeline.hasClock = true) (free : stage.session = none) :
      Step ⟨stage, .between, drivers, log⟩
        ⟨stage.withWorld stage.world.start.2,
          .begun stage.world.start.1 ((stage.world.start.2.run.map Run.driven).getD []),
          drivers, log⟩
  /-- It announces the run. -/
  | announce {stage : Stage} {drivers : List Driver} {log : List Notice} {generation : Nat}
      {driven : List ActorId} :
      Step ⟨stage, .begun generation driven, drivers, log⟩
        ⟨stage.publish [.began driven.length], .staffing generation driven.length driven,
          drivers, log ++ [.opened generation driven.length]⟩
  /-- It starts a driver for the next actor. -/
  | staff {stage : Stage} {drivers : List Driver} {log : List Notice} {generation actors : Nat}
      {actor : ActorId} {left : List ActorId} :
      Step ⟨stage, .staffing generation actors (actor :: left), drivers, log⟩
        ⟨stage.withDriver (stage.driverFor generation actor),
          .staffing generation actors left,
          drivers ++ [stage.driverFor generation actor], log⟩
  /-- When all actors have a driver, the stage has a session. -/
  | settle {stage : Stage} {drivers : List Driver} {log : List Notice} {generation actors : Nat} :
      Step ⟨stage, .staffing generation actors [], drivers, log⟩
        ⟨stage.withSession generation actors, .between, drivers, log⟩
  /-- A call to stop, to shut down or to reset a stage cancels the drivers of
  the session. -/
  | cancel {stage : Stage} {drivers : List Driver} {log : List Notice} {session : Session}
      (taken : stage.session = some session) (thenReset : Bool) :
      Step ⟨stage, .between, drivers, log⟩
        ⟨{ stage with timeline := stage.timeline.cancel session, session := none },
          .closing thenReset, drivers, log⟩
  /-- It ends the run of the world and announces that. -/
  | close {stage : Stage} {drivers : List Driver} {log : List Notice} {thenReset : Bool} :
      Step ⟨stage, .closing thenReset, drivers, log⟩
        ⟨{ stage with timeline := stage.timeline.close },
          if thenReset then .closed else .between, drivers,
          log ++ if stage.world.isActive then [.ended] else []⟩
  /-- A call to reset a stage without a session has nothing to stop. -/
  | skip {stage : Stage} {drivers : List Driver} {log : List Notice}
      (free : stage.session = none) :
      Step ⟨stage, .between, drivers, log⟩ ⟨stage, .closed, drivers, log⟩
  /-- A call to reset a stage puts the actors back to their baselines. -/
  | restore {stage : Stage} {drivers : List Driver} {log : List Notice} :
      Step ⟨stage, .closed, drivers, log⟩
        ⟨stage.withWorld stage.world.restore, .restored, drivers, log⟩
  /-- It announces that. -/
  | proclaim {stage : Stage} {drivers : List Driver} {log : List Notice} :
      Step ⟨stage, .restored, drivers, log⟩
        ⟨stage.publish [.reset], .between, drivers, log ++ [.reset]⟩
  /-- An edit is made at any time. -/
  | edit {state : Backstage} (request : Request) :
      Step state { state with stage := request.perform state.stage }
  /-- A driver that was started at any time tries to tick its actor. -/
  | attempt {state : Backstage} {driver : Driver} (started : driver ∈ state.drivers)
      (now : Instant) :
      Step state (state.attempt driver now)

/-! ## Calls that nothing comes between -/

abbrev Steps : Backstage -> Backstage -> Prop := Relation.ReflTransGen Step

variable {stage : Stage} {drivers : List Driver} {log : List Notice}

theorem staffed (log : List Notice) (generation actors : Nat) (driven : List ActorId) :
    forall (stage : Stage) (drivers : List Driver),
      let started := driven.map (stage.driverFor generation)
      Steps ⟨stage, .staffing generation actors driven, drivers, log⟩
        ⟨{ stage with timeline :=
            { stage.timeline with waiting := stage.timeline.waiting ++ started } },
          .staffing generation actors [], drivers ++ started, log⟩ := by
  induction driven with
  | nil =>
    intro stage drivers
    simp only [List.map_nil, List.append_nil]
    exact .refl
  | cons actor rest step =>
    intro stage drivers
    have first : Step ⟨stage, .staffing generation actors (actor :: rest), drivers, log⟩ _ := .staff
    have later := step (stage.withDriver (stage.driverFor generation actor))
      (drivers ++ [stage.driverFor generation actor])
    have whole := Relation.ReflTransGen.head first later
    simp only [Stage.withDriver, List.append_assoc] at whole
    exact whole

/-- A call that starts a session is a path. -/
theorem run_steps {next : Stage} (ran : stage.run = .ok (true, next)) :
    let generation := stage.world.start.1
    let driven := (stage.world.start.2.run.map Run.driven).getD []
    Steps ⟨stage, .between, drivers, log⟩
      ⟨next, .between, drivers ++ driven.map (stage.driverFor generation),
        log ++ [.opened generation driven.length]⟩ := by
  intro generation driven
  cases free : stage.session with
  | some session =>
    rw [Stage.run, free] at ran
    cases ran
  | none =>
    by_cases hasClock : stage.timeline.hasClock = true
    · rw [Stage.run, free] at ran
      simp only [Timeline.start, if_pos hasClock] at ran
      cases ran
      let begun := stage.withWorld stage.world.start.2
      have begins : Step ⟨stage, .between, drivers, log⟩
          ⟨begun, .begun generation driven, drivers, log⟩ := .begin hasClock free
      have announces : Step ⟨begun, .begun generation driven, drivers, log⟩ _ := .announce
      have staffs := staffed (log ++ [.opened generation driven.length]) generation driven.length
        driven (begun.publish [.began driven.length]) drivers
      have path := ((Relation.ReflTransGen.single begins).tail announces).trans staffs
      exact path.tail .settle
    · rw [Stage.run, free] at ran
      simp only [Timeline.start, if_neg hasClock] at ran
      cases ran

/-- A call that stops a session is a path. -/
theorem stop_steps {next : Stage} (stopped : stage.stop = (true, next)) :
    Steps ⟨stage, .between, drivers, log⟩
      ⟨next, .between, drivers, log ++ if stage.world.isActive then [.ended] else []⟩ := by
  cases taken : stage.session with
  | none =>
    rw [Stage.stop, taken] at stopped
    cases stopped
  | some session =>
    rw [Stage.stop, taken] at stopped
    cases stopped
    have cancels : Step ⟨stage, .between, drivers, log⟩ _ := .cancel taken false
    exact (Relation.ReflTransGen.single cancels).tail .close

/-- A call to reset a stage is a path. -/
theorem reset_steps :
    Exists fun ending => Steps ⟨stage, .between, drivers, log⟩
      ⟨stage.reset, .between, drivers, log ++ ending ++ [.reset]⟩ := by
  cases taken : stage.session with
  | none =>
    have skips : Step ⟨stage, .between, drivers, log⟩ _ := .skip taken
    have path := ((Relation.ReflTransGen.single skips).tail .restore).tail .proclaim
    refine ⟨[], ?_⟩
    rw [Stage.reset, Stage.stop, taken, List.append_nil]
    exact path
  | some session =>
    have cancels : Step ⟨stage, .between, drivers, log⟩ _ := .cancel taken true
    have path := (((Relation.ReflTransGen.single cancels).tail .close).tail .restore).tail .proclaim
    refine ⟨if stage.world.isActive then [.ended] else [], ?_⟩
    rw [Stage.reset, Stage.stop, taken]
    exact path

/-- What a driver does when the clock lets it act is an attempt: it comes to
the same world and the same announcements. -/
theorem act_attempts (state : Backstage) (driver : Driver) :
    let timeline := state.stage.timeline
    let now := timeline.timeOfDay (max timeline.clock driver.due)
    (timeline.act driver).world = (state.attempt driver now).stage.world ∧
      (timeline.act driver).feed = (state.attempt driver now).stage.timeline.feed := by
  intro timeline now
  have acts : forall ticked, timeline.world.tick driver.actor driver.generation now = ticked ->
      (timeline.act driver).world = ticked.2 ∧
        (timeline.act driver).feed = timeline.feed.publish ticked.1.events := by
    rintro ⟨outcome, world⟩ result
    simp only [Timeline.act, now] at result ⊢
    rw [result]
    cases outcome <;> exact ⟨rfl, rfl⟩
  exact acts _ rfl

end Backstage

end SpriteStage
