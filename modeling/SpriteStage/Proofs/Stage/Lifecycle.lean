import SpriteStage.Proofs.Stage.Interleaving
import SpriteStage.Proofs.World.Lifetime

namespace SpriteStage

/-!
# The lifecycle of runs

Whatever order calls and drivers come in, a stage announces resets and whole
runs, one after the other, and every scene of a run comes from a driver of that
run.  A driver whose run has ended can try as often as it likes: nothing comes
of it.  Whenever no call is under way, the stage, its world and its listeners
agree on whether a run is active.

What carries this is that the world begins the run before it is announced, and
ends it together with the announcement.  In between its generation is that of
the open run of the script, and no later run has the same generation.
-/

namespace World

variable {world : World} {actor : ActorId} {now : Instant}

/-- A tick for a run that is not active does nothing. -/
theorem tick_outdated {generation : Nat} (other : world.generation? ≠ some generation) :
    world.tick actor generation now = (.outdated, world) := by
  unfold tick
  split
  · rfl
  · rename_i run active
    have different : run.generation ≠ generation := by
      intro same
      rw [generation?, active, Option.map_some, same] at other
      exact other rfl
    rw [if_neg different]

theorem start_of_idle (idle : world.run = none) :
    world.start.1 = world.generations + 1 ∧
      world.start.2.generation? = some (world.generations + 1) ∧
      world.start.2.generations = world.generations + 1 := by
  rw [start, idle]
  exact ⟨rfl, rfl, rfl⟩

theorem isScene_step (world : World) {event : Event} (member : event ∈ (world.step actor now).1) :
    event.isScene = true := by
  rw [(world.step_carries actor now).2] at member
  split at member
  · rcases List.mem_filterMap.1 member with ⟨action, _, said⟩
    cases action with
    | motion command => cases said
    | look command =>
      rw [Action.event?_look] at said
      cases said
      rfl
  · exact absurd member List.not_mem_nil

theorem isScene_collect_collide (pairs : List ActorPair) :
    forall (world : World) (event : Event), event ∈ (collect (collide now) pairs world).1 ->
      event.isScene = true := by
  induction pairs with
  | nil => exact fun _ _ member => absurd member List.not_mem_nil
  | cons pair rest step =>
    intro world event member
    rw [collect_cons, List.mem_append] at member
    rcases member with own | later
    · unfold collide at own
      split at own
      · rw [List.mem_singleton.1 own]
        rfl
      · exact absurd own List.not_mem_nil
    · exact step _ event later

/-- What a tick announces are scenes. -/
theorem isScene_tick (world : World) (generation : Nat) {event : Event}
    (member : event ∈ (world.tick actor generation now).1.events) : event.isScene = true := by
  rcases world.tick_cases actor generation now with same | same | ⟨_, same⟩
  · rw [same] at member
    exact absurd member List.not_mem_nil
  · rw [same] at member
    exact absurd member List.not_mem_nil
  · rw [same] at member
    rcases List.mem_append.1 member with said | collided
    · exact world.isScene_step said
    · unfold sweep at collided
      split at collided
      · exact absurd collided List.not_mem_nil
      · exact isScene_collect_collide _ _ event collided

end World

theorem Timeline.close_world (timeline : Timeline) :
    timeline.close.world = { timeline.world with run := none } := by
  unfold close
  dsimp only
  split <;> rfl

/-- An edit changes the world of a stage and nothing else, and leaves the run
the same. -/
theorem Request.perform_eq (stage : Stage) (request : Request) :
    Exists fun world => request.perform stage = stage.withWorld world ∧
      World.SameRun stage.world world := by
  refine ⟨_, request.perform_eq_apply stage, ?_⟩
  cases asked : request.operation? with
  | none => exact .refl stage.world
  | some operation =>
    have edits := operation?_edits asked
    exact .apply stage.world edits.1 edits.2

namespace Backstage

variable {state next : Backstage} {stage : Stage} {drivers : List Driver} {log : List Notice}
  {driver : Driver} {now : Instant}

/-- An attempt for a run that is not active changes nothing. -/
theorem attempt_outdated (other : state.stage.world.generation? ≠ some driver.generation) :
    state.attempt driver now = state := by
  rw [attempt, World.tick_outdated other]
  dsimp only [Tick.events]
  rw [List.map_nil, List.append_nil]
  rfl

/-! ## What holds at every time -/

/-- The generation of the run that is open for the listeners. -/
def open? (state : Backstage) : Option Nat :=
  match state.phase with
  | .begun _ _ => none
  | _ => state.stage.world.generation?

/-- What holds between two calls and in the middle of each call. -/
def InPhase (log : List Notice) (stage : Stage) : Phase -> Prop
  | .between => stage.session.isSome = stage.world.run.isSome
  | .begun generation _ =>
    stage.session = none ∧ stage.world.generation? = some generation ∧
      forall earlier, earlier ∈ generationsOf log -> earlier < generation
  | .staffing generation _ _ =>
    stage.session = none ∧ stage.world.generation? = some generation
  | .closing _ => stage.session = none ∧ stage.world.run.isSome = true
  | .closed => stage.session = none ∧ stage.world.run = none
  | .restored => stage.session = none ∧ stage.world.run = none

structure Consistent (state : Backstage) : Prop where
  heard : state.stage.announced = state.log.map Notice.event
  script : Script state.log state.open?
  phase : InPhase state.log state.stage state.phase
  /-- The active run is the last one that began. -/
  latest : forall generation, state.stage.world.generation? = some generation ->
    generation = state.stage.world.generations
  past : forall generation, generation ∈ generationsOf state.log ->
    generation ≤ state.stage.world.generations
  staffed : forall driver, driver ∈ state.drivers -> driver.generation ∈ generationsOf state.log
  credited : forall driver event, .scene driver event ∈ state.log -> driver ∈ state.drivers

theorem InPhase.congr {phase : Phase} {other : Stage} {longer : List Notice}
    (inPhase : InPhase log stage phase) (sameSession : other.session = stage.session)
    (sameRun : World.SameRun stage.world other.world)
    (sameGenerations : generationsOf longer = generationsOf log) :
    InPhase longer other phase := by
  cases phase with
  | between =>
    rw [InPhase, sameSession, sameRun.active]
    exact inPhase
  | begun generation driven =>
    rw [InPhase, sameSession, sameRun.generation, sameGenerations]
    exact inPhase
  | staffing generation actors left =>
    rw [InPhase, sameSession, sameRun.generation]
    exact inPhase
  | closing thenReset =>
    rw [InPhase, sameSession, sameRun.active]
    exact inPhase
  | closed =>
    rw [InPhase, sameSession, sameRun.idle]
    exact inPhase
  | restored =>
    rw [InPhase, sameSession, sameRun.idle]
    exact inPhase

theorem open?_congr {other : Stage} {phase : Phase} {laterDrivers : List Driver}
    {longer : List Notice} (sameRun : World.SameRun stage.world other.world) :
    open? ⟨other, phase, laterDrivers, longer⟩ = open? ⟨stage, phase, drivers, log⟩ := by
  cases phase <;> first | rfl | exact sameRun.generation

namespace Consistent

theorem ofWorld {world : World} (idle : world.run = none) (settings : Settings)
    (hasClock : Bool) (timeOfDay : Nat -> Instant) :
    (ofStage (Stage.ofWorld world settings hasClock timeOfDay)).Consistent where
  heard := rfl
  script := by
    have closed : (ofStage (Stage.ofWorld world settings hasClock timeOfDay)).open? = none := by
      change world.generation? = none
      rw [World.generation?, idle]
      rfl
    rw [closed]
    exact .empty
  phase := by
    change false = world.run.isSome
    rw [idle]
    rfl
  latest := by
    intro generation active
    change world.generation? = some generation at active
    rw [World.generation?, idle] at active
    cases active
  past := fun _ member => absurd member List.not_mem_nil
  staffed := fun _ member => absurd member List.not_mem_nil
  credited := fun _ _ member => absurd member List.not_mem_nil

theorem opening {world : World} (idle : world.run = none) (settings : Settings)
    (timeOfDay : Nat -> Instant) : (Backstage.opening world settings timeOfDay).Consistent :=
  ofWorld idle settings true timeOfDay

/-- The generation of a run that has begun is that of an open run, or no one
has heard of it yet. -/
theorem open?_of_heard (consistent : state.Consistent) {generation : Nat}
    (active : state.stage.world.generation? = some generation)
    (heard : generation ∈ generationsOf state.log) : state.open? = some generation := by
  have inPhase := consistent.phase
  rcases state with ⟨stage, phase, drivers, log⟩
  cases phase with
  | begun opening driven =>
    have less := inPhase.2.2 generation heard
    rw [Option.some.inj (active.symm.trans inPhase.2.1)] at less
    exact absurd less (Nat.lt_irrefl opening)
  | _ => exact active

/-- A change of the world that leaves the run the same. -/
theorem of_sameRun {phase : Phase} {other : Stage}
    (consistent : Consistent ⟨stage, phase, drivers, log⟩)
    (sameFeed : other.announced = stage.announced) (sameSession : other.session = stage.session)
    (sameRun : World.SameRun stage.world other.world) :
    Consistent ⟨other, phase, drivers, log⟩ where
  heard := sameFeed.trans consistent.heard
  script := (open?_congr sameRun).symm ▸ consistent.script
  phase := consistent.phase.congr sameSession sameRun rfl
  latest := by
    intro generation active
    dsimp only at active ⊢
    rw [sameRun.generation] at active
    rw [sameRun.generations]
    exact consistent.latest generation active
  past := by
    intro generation member
    dsimp only
    rw [sameRun.generations]
    exact consistent.past generation member
  staffed := consistent.staffed
  credited := consistent.credited

/-- An announcement other than that of a run that begins. -/
theorem of_notices {phase later : Phase} {other : Stage} {notices : List Notice}
    (consistent : Consistent ⟨stage, phase, drivers, log⟩)
    (published : other.announced = stage.announced ++ notices.map Notice.event)
    (sameGenerations : other.world.generations = stage.world.generations)
    (sameRun : forall generation, other.world.generation? = some generation ->
      stage.world.generation? = some generation)
    (noneOpened : generationsOf notices = [])
    (credited : forall driver event, .scene driver event ∈ notices -> driver ∈ drivers)
    (script : Script (log ++ notices) (open? ⟨other, later, drivers, log ++ notices⟩))
    (inPhase : InPhase (log ++ notices) other later) :
    Consistent ⟨other, later, drivers, log ++ notices⟩ := by
  have generations : generationsOf (log ++ notices) = generationsOf log := by
    rw [Script.generationsOf_append, noneOpened, List.append_nil]
  refine ⟨?_, script, inPhase, ?_, ?_, ?_, ?_⟩
  · have heard : stage.announced = log.map Notice.event := consistent.heard
    rw [List.map_append, ← heard]
    exact published
  · intro generation active
    exact (consistent.latest generation (sameRun generation active)).trans sameGenerations.symm
  · intro generation member
    rw [generations] at member
    exact Nat.le_trans (consistent.past generation member) (Nat.le_of_eq sameGenerations.symm)
  · intro driver member
    rw [generations]
    exact consistent.staffed driver member
  · intro driver event member
    rcases List.mem_append.1 member with earlier | new
    · exact consistent.credited driver event earlier
    · exact credited driver event new

/-- A stage without a session between two calls has no run. -/
theorem idle (consistent : Consistent ⟨stage, .between, drivers, log⟩)
    (free : stage.session = none) : stage.world.run = none := by
  have agree : stage.session.isSome = stage.world.run.isSome := consistent.phase
  rw [free] at agree
  exact Option.isNone_iff_eq_none.1 (Option.isSome_eq_false_iff.1 agree.symm)

/-! ## The parts of a call to run -/

theorem begin (consistent : Consistent ⟨stage, .between, drivers, log⟩)
    (free : stage.session = none) :
    Consistent ⟨stage.withWorld stage.world.start.2,
      .begun stage.world.start.1 ((stage.world.start.2.run.map Run.driven).getD []),
      drivers, log⟩ := by
  have idle := consistent.idle free
  have began := World.start_of_idle idle
  have later : forall generation, generation ∈ generationsOf log ->
      generation < stage.world.generations + 1 :=
    fun generation member => Nat.lt_succ_of_le (consistent.past generation member)
  have closed : stage.world.generation? = none := by
    rw [World.generation?, idle]
    rfl
  refine ⟨consistent.heard, ?_, ⟨free, ?_, ?_⟩, ?_, ?_, consistent.staffed, consistent.credited⟩
  · have script : Script log stage.world.generation? := consistent.script
    rw [closed] at script
    exact script
  · rw [began.1]
    exact began.2.1
  · rw [began.1]
    exact later
  · intro generation active
    exact (Option.some.inj (began.2.1.symm.trans active)).symm.trans began.2.2.symm
  · intro generation member
    change generation ≤ stage.world.start.2.generations
    rw [began.2.2]
    exact Nat.le_of_lt (later generation member)

theorem announce {generation : Nat} {driven : List ActorId}
    (consistent : Consistent ⟨stage, .begun generation driven, drivers, log⟩) :
    Consistent ⟨stage.publish [.began driven.length], .staffing generation driven.length driven,
      drivers, log ++ [.opened generation driven.length]⟩ := by
  have inPhase := consistent.phase
  have opened : Script (log ++ [.opened generation driven.length]) (some generation) :=
    Script.opened consistent.script driven.length inPhase.2.2
  refine ⟨?_, ?_, ⟨inPhase.1, inPhase.2.1⟩, consistent.latest, ?_, ?_, ?_⟩
  · have heard : stage.announced = log.map Notice.event := consistent.heard
    change (stage.timeline.feed.publish [.began driven.length]).unread = _
    rw [EventFeed.unread_publish, List.map_append]
    exact congrArg (· ++ [Event.began driven.length]) heard
  · have active : stage.world.generation? = some generation := inPhase.2.1
    change Script _ stage.world.generation?
    rw [active]
    exact opened
  · intro other member
    rw [Script.generationsOf_append] at member
    rcases List.mem_append.1 member with earlier | isLast
    · exact consistent.past other earlier
    · rw [List.mem_singleton.1 isLast]
      exact Nat.le_of_eq (consistent.latest generation inPhase.2.1)
  · intro driver member
    rw [Script.generationsOf_append]
    exact List.mem_append_left _ (consistent.staffed driver member)
  · intro driver event member
    rcases List.mem_append.1 member with earlier | isLast
    · exact consistent.credited driver event earlier
    · cases List.mem_singleton.1 isLast

theorem staff {generation actors : Nat} {actor : ActorId} {left : List ActorId}
    (consistent : Consistent ⟨stage, .staffing generation actors (actor :: left), drivers, log⟩) :
    Consistent ⟨stage.withDriver (stage.driverFor generation actor),
      .staffing generation actors left, drivers ++ [stage.driverFor generation actor], log⟩ := by
  have active : stage.world.generation? = some generation := consistent.phase.2
  have opened : Script log stage.world.generation? := consistent.script
  rw [active] at opened
  refine ⟨consistent.heard, consistent.script, consistent.phase, consistent.latest,
    consistent.past, ?_, ?_⟩
  · intro driver member
    rcases List.mem_append.1 member with earlier | isLast
    · exact consistent.staffed driver earlier
    · rw [List.mem_singleton.1 isLast]
      exact opened.mem_generationsOf
  · intro driver event member
    exact List.mem_append_left _ (consistent.credited driver event member)

theorem settle {generation actors : Nat}
    (consistent : Consistent ⟨stage, .staffing generation actors [], drivers, log⟩) :
    Consistent ⟨stage.withSession generation actors, .between, drivers, log⟩ := by
  have active : stage.world.run.isSome = true := by
    rw [← World.isSome_generation?, consistent.phase.2]
    rfl
  exact ⟨consistent.heard, consistent.script, active.symm, consistent.latest, consistent.past,
    consistent.staffed, consistent.credited⟩

/-! ## The parts of a call that stops a run -/

theorem cancel {session : Session} (consistent : Consistent ⟨stage, .between, drivers, log⟩)
    (taken : stage.session = some session) (thenReset : Bool) :
    Consistent ⟨{ stage with timeline := stage.timeline.cancel session, session := none },
      .closing thenReset, drivers, log⟩ := by
  have inPhase : stage.session.isSome = stage.world.run.isSome := consistent.phase
  rw [taken] at inPhase
  exact ⟨consistent.heard, consistent.script, ⟨rfl, inPhase.symm⟩, consistent.latest,
    consistent.past, consistent.staffed, consistent.credited⟩

theorem close {thenReset : Bool}
    (consistent : Consistent ⟨stage, .closing thenReset, drivers, log⟩) :
    Consistent ⟨{ stage with timeline := stage.timeline.close },
      if thenReset then .closed else .between, drivers,
      log ++ if stage.world.isActive then [.ended] else []⟩ := by
  have active : stage.world.isActive = true := consistent.phase.2
  rw [if_pos active]
  have ended : stage.timeline.close =
      ({ stage.timeline with world := { stage.world with run := none } }).publish [.ended] :=
    if_pos active
  rw [ended]
  rcases Option.isSome_iff_exists.1 consistent.phase.2 with ⟨run, runIs⟩
  have opened : Script log stage.world.generation? := consistent.script
  rw [World.generation?, runIs] at opened
  refine consistent.of_notices ?_ rfl ?_ rfl ?_ ?_ ?_
  · exact EventFeed.unread_publish _ _
  · exact fun generation active => nomatch active
  · intro driver event member
    cases List.mem_singleton.1 member
  · cases thenReset <;> exact opened.ended
  · have free : stage.session = none := consistent.phase.1
    cases thenReset with
    | false => exact congrArg Option.isSome free
    | true => exact ⟨free, rfl⟩

theorem skip (consistent : Consistent ⟨stage, .between, drivers, log⟩)
    (free : stage.session = none) : Consistent ⟨stage, .closed, drivers, log⟩ :=
  ⟨consistent.heard, consistent.script, ⟨free, consistent.idle free⟩, consistent.latest,
    consistent.past, consistent.staffed, consistent.credited⟩

theorem restore (consistent : Consistent ⟨stage, .closed, drivers, log⟩) :
    Consistent ⟨stage.withWorld stage.world.restore, .restored, drivers, log⟩ :=
  ⟨consistent.heard, consistent.script, consistent.phase, consistent.latest, consistent.past,
    consistent.staffed, consistent.credited⟩

theorem proclaim (consistent : Consistent ⟨stage, .restored, drivers, log⟩) :
    Consistent ⟨stage.publish [.reset], .between, drivers, log ++ [.reset]⟩ := by
  have inPhase := consistent.phase
  have idle : stage.world.run = none := inPhase.2
  have closed : stage.world.generation? = none := by
    rw [World.generation?, idle]
    rfl
  have script : Script log stage.world.generation? := consistent.script
  refine consistent.of_notices ?_ rfl (fun _ active => active) rfl ?_ ?_ ?_
  · exact EventFeed.unread_publish _ _
  · intro driver event member
    cases List.mem_singleton.1 member
  · change Script _ stage.world.generation?
    rw [closed] at script ⊢
    exact script.reset
  · change stage.session.isSome = stage.world.run.isSome
    rw [inPhase.1, idle]
    rfl

/-! ## Edits and attempts -/

theorem edit (consistent : state.Consistent) (request : Request) :
    Consistent { state with stage := request.perform state.stage } := by
  rcases request.perform_eq state.stage with ⟨world, performed, sameRun⟩
  rw [performed]
  exact consistent.of_sameRun rfl rfl sameRun

/-- An attempt for the active run announces scenes of it; any other attempt
does nothing. -/
theorem attempt (consistent : state.Consistent) (started : driver ∈ state.drivers)
    (now : Instant) : (state.attempt driver now).Consistent := by
  by_cases current : state.stage.world.generation? = some driver.generation
  · have opened := consistent.open?_of_heard current (consistent.staffed driver started)
    have script := consistent.script
    rw [opened] at script
    rcases state with ⟨stage, phase, drivers, log⟩
    let ticked := stage.world.tick driver.actor driver.generation now
    let other := (stage.withWorld ticked.2).publish ticked.1.events
    let longer := log ++ ticked.1.events.map (Notice.scene driver)
    have sameRun : World.SameRun stage.world other.world :=
      .tick stage.world driver.actor driver.generation
    have scenes : Script (log ++ ticked.1.events.map (Notice.scene driver))
        (some driver.generation) :=
      script.scenes fun event member => stage.world.isScene_tick driver.generation member
    have noneOpened : generationsOf (ticked.1.events.map (Notice.scene driver)) = [] := by
      rw [generationsOf, List.filterMap_map]
      exact List.filterMap_eq_nil_iff.2 fun _ _ => rfl
    refine consistent.of_notices ?_ sameRun.generations ?_ noneOpened ?_ ?_ ?_
    · have events : (ticked.1.events.map (Notice.scene driver)).map Notice.event =
          ticked.1.events := by
        rw [List.map_map]
        exact List.map_id _
      rw [events]
      exact EventFeed.unread_publish _ _
    · intro generation active
      exact sameRun.generation.symm.trans active
    · intro other event member
      rcases List.mem_map.1 member with ⟨_, _, same⟩
      cases same
      exact started
    · have sameOpen : open? ⟨other, phase, drivers, longer⟩ =
          open? ⟨stage, phase, drivers, log⟩ := open?_congr sameRun
      exact (sameOpen.trans opened).symm ▸ scenes
    · refine consistent.phase.congr rfl sameRun ?_
      rw [Script.generationsOf_append, noneOpened, List.append_nil]
  · rw [attempt_outdated current]
    exact consistent

theorem step (consistent : state.Consistent) (happens : Step state next) : next.Consistent := by
  cases happens with
  | begin _ free => exact consistent.begin free
  | announce => exact consistent.announce
  | staff => exact consistent.staff
  | settle => exact consistent.settle
  | cancel taken thenReset => exact consistent.cancel taken thenReset
  | close => exact consistent.close
  | skip free => exact consistent.skip free
  | restore => exact consistent.restore
  | proclaim => exact consistent.proclaim
  | edit request => exact consistent.edit request
  | attempt started now => exact consistent.attempt started now

theorem steps (consistent : state.Consistent) (path : Steps state next) : next.Consistent := by
  induction path with
  | refl => exact consistent
  | tail _ happens before => exact before.step happens

/-- No attempt of a driver whose run has ended does anything. -/
theorem attempt_after_end (consistent : state.Consistent) {early late : List Notice}
    {actors : Nat} (began : state.log = early ++ .opened driver.generation actors :: late)
    (ended : .ended ∈ late) (now : Instant) : state.attempt driver now = state := by
  have listed : driver.generation ∈ generationsOf state.log := by
    rw [began, Script.generationsOf_append]
    exact List.mem_append_right _ List.mem_cons_self
  apply attempt_outdated
  intro active
  exact consistent.script.ne_of_ended began ended (consistent.open?_of_heard active listed)

end Consistent

/-- The order that calls and drivers keep. -/
structure Orderly (state : Backstage) : Prop where
  /-- What was announced is the beginning of a sequence of resets and whole runs. -/
  playbill : Exists fun rest => Playbill (state.stage.announced ++ rest)
  /-- The log tells the origin of each event that was announced. -/
  logged : state.log.map Notice.event = state.stage.announced
  /-- Every scene comes from a driver of the run that began last and is open. -/
  attributed : forall early driver event late,
    state.log = early ++ .scene driver event :: late ->
      driver ∈ state.drivers ∧
        Exists fun front => Exists fun actors => Exists fun between =>
          early = front ++ .opened driver.generation actors :: between ∧
            forall notice, notice ∈ between -> notice.event.isScene = true
  /-- Nothing comes of an attempt for a run that has ended. -/
  outdated : forall early (driver : Driver) actors late,
    state.log = early ++ .opened driver.generation actors :: late -> .ended ∈ late ->
      forall now, state.attempt driver now = state
  /-- A later run has a larger generation. -/
  increasing : (generationsOf state.log).Pairwise (· < ·)
  /-- Between two calls the stage, the world and the listeners agree. -/
  agree : state.phase = .between ->
    state.stage.isActive = state.stage.world.isActive ∧
      (state.stage.isActive = true <-> RunOpen state.stage.announced)
  /-- To run a stage that runs, or to stop one that does not, changes nothing. -/
  idempotent : state.phase = .between ->
    (state.stage.isActive = true -> state.stage.run = .ok (false, state.stage)) ∧
      (state.stage.isActive = false ->
        state.stage.stop = (false, state.stage) ∧ state.stage.shutdown = state.stage)

theorem Consistent.orderly (consistent : state.Consistent) : state.Orderly where
  playbill := by
    rw [consistent.heard]
    exact consistent.script.exists_playbill
  logged := consistent.heard.symm
  attributed := by
    intro early driver event late split
    refine ⟨consistent.credited driver event ?_, consistent.script.attributed split⟩
    rw [split]
    exact List.mem_append_right _ List.mem_cons_self
  outdated := fun _ _ _ _ began ended now => consistent.attempt_after_end began ended now
  increasing := consistent.script.increasing
  agree := by
    intro between
    have inPhase := consistent.phase
    rw [between] at inPhase
    have isOpen : state.open? = state.stage.world.generation? := by
      rw [open?, between]
    have heard := consistent.script.runOpen_iff
    rw [← consistent.heard, isOpen, World.isSome_generation?] at heard
    have same : state.stage.isActive = state.stage.world.isActive := inPhase
    refine ⟨same, ?_⟩
    rw [same]
    exact heard.symm
  idempotent := by
    intro _
    refine ⟨?_, ?_⟩
    · intro active
      rcases Option.isSome_iff_exists.1 active with ⟨session, isSession⟩
      rw [Stage.run, isSession]
    · intro inactive
      have free : state.stage.session = none :=
        Option.isNone_iff_eq_none.1 (Option.isSome_eq_false_iff.1 inactive)
      rw [Stage.shutdown, Stage.stop, free]
      exact ⟨rfl, rfl⟩

/-- From a stage whose world has no run, calls and drivers keep their order
whatever comes when.

Calls are taken apart into their steps, so that drivers act and edits are made
between any two of them.  Nothing is assumed about which driver acts next, nor
that a driver that was cancelled stops at once.  What is left out is waiting:
that a driver gets to act at all is not claimed. -/
theorem steps_orderly {world : World} (idle : world.run = none) (settings : Settings)
    (timeOfDay : Nat -> Instant) {state : Backstage}
    (path : Steps (opening world settings timeOfDay) state) : state.Orderly :=
  ((Consistent.opening idle settings timeOfDay).steps path).orderly

section Sample

def sampleWorld : World :=
  World.sampleApart.after
    [.insert ⟨⟨Uuid.ofNat 1⟩, .look (.say "word"), .nobody, none, []⟩ none ⟨Uuid.ofNat 1⟩]

def sampleDriver : Driver := ⟨0, ⟨Uuid.ofNat 1⟩, 1, 0⟩

/-- The first run has begun, and its drivers have not ticked yet. -/
def sampleOpened : Backstage :=
  let stage := (opening sampleWorld Settings.standard fun _ => default).stage
  match stage.run with
  | .ok (_, next) =>
    ⟨next, .between, [sampleDriver, ⟨0, ⟨Uuid.ofNat 2⟩, 1, 0⟩], [.opened 1 2]⟩
  | .error _ => ⟨stage, .between, [], []⟩

def sampleStopped : Backstage :=
  let spoken := sampleOpened.attempt sampleDriver default
  ⟨spoken.stage.stop.2, .between, spoken.drivers,
    spoken.log ++ if spoken.stage.world.isActive then [.ended] else []⟩

theorem sampleStopped_reached :
    Steps (opening sampleWorld Settings.standard fun _ => default) sampleStopped := by
  have runs : Steps (opening sampleWorld Settings.standard fun _ => default) sampleOpened :=
    run_steps rfl
  have spoken : Steps (opening sampleWorld Settings.standard fun _ => default)
      (sampleOpened.attempt sampleDriver default) := runs.tail (.attempt List.mem_cons_self default)
  exact spoken.trans (stop_steps rfl)

/-- When the driver tries again after the run, nothing comes of it. -/
theorem sampleStopped_orderly :
    sampleWorld.run = none ∧
      Steps (opening sampleWorld Settings.standard fun _ => default) sampleStopped ∧
      sampleStopped.stage.announced =
        [.began 2, .said ⟨Uuid.ofNat 1⟩ "word" none, .ended] ∧
      sampleStopped.attempt sampleDriver default = sampleStopped := by
  have idle : sampleWorld.run = none := rfl
  have orderly := steps_orderly idle Settings.standard (fun _ => default) sampleStopped_reached
  have log : sampleStopped.log =
      [.opened 1 2, .scene sampleDriver (.said ⟨Uuid.ofNat 1⟩ "word" none), .ended] := by
    decide +kernel
  have announced := orderly.logged
  rw [log] at announced
  refine ⟨idle, sampleStopped_reached, announced.symm, ?_⟩
  exact orderly.outdated [] sampleDriver 2 _ log (by simp) default

end Sample

end Backstage

end SpriteStage
