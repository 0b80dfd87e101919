import SpriteStage.Proofs.Stage.Lifecycle
import SpriteStage.Proofs.World.Reach

namespace SpriteStage

/-!
# Actors that come during a run

A call that runs a stage starts a driver for each actor that was there when
the run began.  Nobody who comes later gets one, and drivers of earlier runs
tick for runs that have ended.  So as long as the run goes on, whatever else
happens meanwhile, no attempt of a driver changes a newcomer or executes its
blocks.
-/

namespace Backstage

/-- A stage whose run has just begun, in a call that is to start its drivers. -/
def begun (stage : Stage) (drivers : List Driver) (log : List Notice) : Backstage :=
  ⟨stage.withWorld stage.world.start.2,
    .begun stage.world.start.1 ((stage.world.start.2.run.map Run.driven).getD []), drivers, log⟩

/-- The actors that a call still has to start a driver for, in the run of a
generation. -/
def unstaffed (generation : Nat) : Phase -> List ActorId
  | .begun other driven => if other = generation then driven else []
  | .staffing other _ left => if other = generation then left else []
  | _ => []

/-- What holds since the run of a generation began: while it is active it
drives the same actors, and all its drivers are theirs. -/
structure Drives (generation : Nat) (driven : List ActorId) (state : Backstage) : Prop where
  counted : generation ≤ state.stage.world.generations
  identity : state.stage.world.generation? = some generation ->
    state.stage.world.identity? = some (generation, driven)
  started : forall driver, driver ∈ state.drivers -> driver.generation = generation ->
    driver.actor ∈ driven
  coming : unstaffed generation state.phase ⊆ driven

variable {state next : Backstage} {stage : Stage} {drivers : List Driver} {log : List Notice}
  {driver : Driver} {now : Instant} {generation : Nat} {driven : List ActorId}

namespace Drives

/-- What leaves the run the same and starts no driver. -/
theorem of_sameRun (drives : Drives generation driven state)
    (sameRun : World.SameRun state.stage.world next.stage.world)
    (sameDrivers : next.drivers = state.drivers)
    (fewer : unstaffed generation next.phase ⊆ unstaffed generation state.phase) :
    Drives generation driven next where
  counted := sameRun.generations ▸ drives.counted
  identity := by
    rw [sameRun.generation, sameRun.identity]
    exact drives.identity
  started := sameDrivers ▸ drives.started
  coming := List.Subset.trans fewer drives.coming

theorem begun (consistent : Consistent ⟨stage, .between, drivers, log⟩)
    (free : stage.session = none) :
    Drives stage.world.start.1 stage.world.cast.ids (begun stage drivers log) := by
  have idle := consistent.idle free
  have began := World.start_of_idle idle
  refine ⟨?_, fun _ => World.identity_start idle, ?_, ?_⟩
  · exact Nat.le_of_eq (began.1.trans began.2.2.symm)
  · intro driver member same
    have earlier : driver.generation ≤ stage.world.generations :=
      consistent.past _ (consistent.staffed driver member)
    rw [same, began.1] at earlier
    exact absurd earlier (Nat.not_succ_le_self _)
  · change unstaffed stage.world.start.1 (.begun stage.world.start.1 _) ⊆ _
    rw [unstaffed, if_pos rfl, World.start, idle]
    exact List.Subset.refl _

theorem staff {other actors : Nat} {actor : ActorId} {left : List ActorId}
    (drives : Drives generation driven
      ⟨stage, .staffing other actors (actor :: left), drivers, log⟩) :
    Drives generation driven ⟨stage.withDriver (stage.driverFor other actor),
      .staffing other actors left, drivers ++ [stage.driverFor other actor], log⟩ := by
  have coming : (if other = generation then actor :: left else []) ⊆ driven := drives.coming
  refine ⟨drives.counted, drives.identity, ?_, ?_⟩
  · intro driver member same
    rcases List.mem_append.1 member with earlier | isLast
    · exact drives.started driver earlier same
    · rw [List.mem_singleton.1 isLast] at same ⊢
      have current : other = generation := same
      rw [if_pos current] at coming
      exact coming List.mem_cons_self
  · change (if other = generation then left else []) ⊆ driven
    split
    · rename_i same
      rw [if_pos same] at coming
      exact List.Subset.trans (List.subset_cons_self actor left) coming
    · exact List.nil_subset driven

end Drives

/-- Whatever happens next, later runs are of other generations, and drivers
are started only for the actors that the run drives. -/
theorem Consistent.drives_step (consistent : state.Consistent) (happens : Step state next)
    (drives : Drives generation driven state) : Drives generation driven next := by
  have unchanged : World.SameRun state.stage.world state.stage.world := .refl _
  cases happens with
  | @begin stage _ _ hasClock free =>
    have began := World.start_of_idle (consistent.idle free)
    have counted : generation ≤ stage.world.generations := drives.counted
    have different : stage.world.start.1 ≠ generation := by
      rw [began.1]
      omega
    refine ⟨?_, ?_, drives.started, ?_⟩
    · exact Nat.le_trans (Nat.le_succ_of_le counted) (Nat.le_of_eq began.2.2.symm)
    · intro active
      exact absurd (Option.some.inj (began.2.1.symm.trans active)) (began.1 ▸ different)
    · rw [unstaffed, if_neg different]
      exact List.nil_subset driven
  | announce => exact drives.of_sameRun unchanged rfl (List.Subset.refl _)
  | staff => exact drives.staff
  | @close stage _ _ thenReset =>
    have idle : stage.timeline.close.world.run = none := by
      rw [stage.timeline.close_world]
    refine ⟨?_, ?_, drives.started, ?_⟩
    · change generation ≤ stage.timeline.close.world.generations
      rw [stage.timeline.close_world]
      exact drives.counted
    · intro active
      change stage.timeline.close.world.generation? = some generation at active
      rw [World.generation?, idle] at active
      cases active
    · cases thenReset <;> exact List.nil_subset driven
  | restore => exact drives.of_sameRun (.of_run _ _ _) rfl (List.nil_subset _)
  | edit request =>
    rcases request.perform_eq state.stage with ⟨world, performed, sameRun⟩
    refine drives.of_sameRun ?_ rfl (List.Subset.refl _)
    dsimp only
    rw [performed]
    exact sameRun
  | attempt started now => exact drives.of_sameRun (.tick _ _ _) rfl (List.Subset.refl _)
  | _ => exact drives.of_sameRun unchanged rfl (List.nil_subset _)

theorem Consistent.drives_steps (consistent : state.Consistent) (path : Steps state next)
    (drives : Drives generation driven state) : Drives generation driven next := by
  induction path with
  | refl => exact drives
  | tail earlier happens before => exact (consistent.steps earlier).drives_step happens before

/-- As long as a run goes on, every attempt of a driver overlooks whoever was
not there when the run began. -/
theorem Consistent.overlooks_newcomer (consistent : Consistent ⟨stage, .between, drivers, log⟩)
    (free : stage.session = none) (path : Steps (begun stage drivers log) state)
    (goesOn : state.stage.world.generation? = some stage.world.start.1)
    (sound : state.stage.world.Sound) {newcomer : ActorId}
    (new : newcomer ∉ stage.world.cast.ids) (started : driver ∈ state.drivers) (now : Instant) :
    (Operation.tick driver.actor driver.generation now).Overlooks newcomer state.stage.world := by
  have drives := (consistent.begin free).drives_steps path (.begun consistent free)
  have belongs : (Operation.tick driver.actor driver.generation now).Belongs stage.world.start.1
      stage.world.cast.ids := drives.started driver started
  exact Operation.overlooks_of_notMem sound rfl
    fun walks => new (Operation.walkers_subset (drives.identity goesOn) belongs walks)

/-- A tick reaches its actor, those in its collisions, and nothing else.  In
the course of a run, be it driven by common ticks or by the drivers of a stage,
ticks overlook whoever was not there when it began.

The first part needs no history, only a sound world.  In the others the newcomer
may be given a program, moved about and collide with others, and all that is
claimed is about ticks: edits and collisions may still change it. -/
theorem ticks_stay_in_reach :
    (forall (world after : World) (actor : ActorId) (generation : Nat) (now : Instant)
      (events : List Event), world.Sound ->
        world.tick actor generation now = (.acted events, after) ->
          World.Reaches actor world events after) ∧
    (forall (world : World) (during early late : List Operation) (operation : Operation)
      (newcomer : ActorId), world.Sound -> world.run = none -> world.start.2.Allows during ->
        (forall other, other ∈ during -> other.Belongs world.start.1 world.cast.ids) ->
          newcomer ∉ world.cast.ids -> during = early ++ operation :: late ->
            operation.isTimed = true ->
              operation.Overlooks newcomer (world.start.2.after early)) ∧
    forall (world : World) (settings : Settings) (timeOfDay : Nat -> Instant) (stage : Stage)
      (drivers : List Driver) (log : List Notice) (state : Backstage) (newcomer : ActorId)
      (driver : Driver) (now : Instant), world.run = none ->
        Steps (opening world settings timeOfDay) ⟨stage, .between, drivers, log⟩ ->
          stage.session = none -> Steps (begun stage drivers log) state ->
            state.stage.world.generation? = some stage.world.start.1 ->
              state.stage.world.Sound -> newcomer ∉ stage.world.cast.ids ->
                driver ∈ state.drivers ->
                  let tick := Operation.tick driver.actor driver.generation now
                  (state.attempt driver now).stage.world = tick.apply state.stage.world ∧
                    tick.Overlooks newcomer state.stage.world := by
  refine ⟨?_, ?_, ?_⟩
  · exact fun _ _ _ _ _ _ sound => sound.tick_reaches
  · intro world during early late operation newcomer sound idle allowed belong new split timed
    exact sound.overlooks_newcomer idle allowed belong split timed new
  · intro world settings timeOfDay stage drivers log state newcomer driver now idle reached free
      path goesOn sound new started
    have consistent := (Consistent.opening idle settings timeOfDay).steps reached
    exact ⟨world_attempt driver now state,
      consistent.overlooks_newcomer free path goesOn sound new started now⟩

section Sample

def sampleArrival : List Operation :=
  [.spawn ⟨Uuid.ofNat 3⟩, .place ⟨Uuid.ofNat 3⟩ 5.0 0.0 90.0]

/-- The two collide before anyone has ticked, and then everyone is to tick. -/
def sampleVisit : List Operation := sampleArrival ++ [.sweep default, .tickTogether default]

def sampleVisited : Backstage :=
  let joined := (Request.spawn ⟨Uuid.ofNat 3⟩).perform sampleOpened.stage
  let near := (Request.place ⟨Uuid.ofNat 3⟩ 5.0 0.0 90.0).perform joined
  { sampleOpened with stage := near }.attempt sampleDriver default

theorem sampleWorld_sound : sampleWorld.Sound :=
  World.sampleApart_created.sound.after_history _ ⟨World.sampleWord_allowed 1 "word", trivial⟩

theorem sampleVisited_world :
    sampleVisited.stage.world =
      sampleWorld.start.2.after (sampleArrival ++ [.tick ⟨Uuid.ofNat 1⟩ 1 default]) := by
  have opened : sampleOpened.stage.world = sampleWorld.start.2 := rfl
  rw [sampleVisited, world_attempt, Request.world_perform, Request.world_perform, opened]
  simp only [Request.operation?, Option.elim_some, sampleDriver, sampleArrival, World.after,
    List.cons_append, List.nil_append, List.foldl_cons, List.foldl_nil]

/-- A collision hands the third actor the program of the first.  From then on
the common tick overlooks it, and so does the driver of the first: nobody says
the word that it has now. -/
theorem sampleVisit_stays_in_reach :
    let one : ActorId := ⟨Uuid.ofNat 1⟩
    let three : ActorId := ⟨Uuid.ofNat 3⟩
    let tick := Operation.tick sampleDriver.actor sampleDriver.generation default
    let met := sampleWorld.start.2.after (sampleArrival ++ [.sweep default])
    three ∉ sampleWorld.cast.ids ∧
      World.Reaches one sampleWorld.start.2 [.said one "word" none]
        (sampleWorld.start.2.tick one 1 default).2 ∧
      (met.programs.forest three).map Block.id = [⟨Uuid.ofNat 1⟩] ∧
      (Operation.tickTogether default).Overlooks three met ∧ (met.tickTogether default).1 = [] ∧
      Steps (opening sampleWorld Settings.standard fun _ => default) sampleVisited ∧
      (sampleVisited.stage.world.programs.forest three).map Block.id = [⟨Uuid.ofNat 1⟩] ∧
      (sampleVisited.attempt sampleDriver default).stage.world =
        tick.apply sampleVisited.stage.world ∧
      tick.Overlooks three sampleVisited.stage.world := by
  intro one three tick met
  have idle : sampleWorld.run = none := rfl
  have new : three ∉ sampleWorld.cast.ids := by decide
  have stillNew : three ∉ sampleWorld.start.2.cast.ids := by decide
  rcases ticks_stay_in_reach with ⟨reaches, overlooks, attempts⟩
  have ticked : sampleWorld.start.2.tick one 1 default =
      (.acted [.said one "word" none], (sampleWorld.start.2.tick one 1 default).2) :=
    Prod.ext (by decide +kernel) rfl
  have allowed : sampleWorld.start.2.Allows sampleVisit :=
    ⟨stillNew, trivial, trivial, trivial, trivial⟩
  have belong : forall other, other ∈ sampleVisit ->
      other.Belongs sampleWorld.start.1 sampleWorld.cast.ids := by
    simp [sampleVisit, sampleArrival, Operation.Belongs]
  let stage := (opening sampleWorld Settings.standard fun _ => default).stage
  have announced : Steps (begun stage [] []) _ := Relation.ReflTransGen.single .announce
  have opened : Steps (begun stage [] []) sampleOpened :=
    ((announced.tail .staff).tail .staff).tail .settle
  have visited : Steps (begun stage [] []) sampleVisited :=
    ((opened.tail (.edit (.spawn three))).tail (.edit (.place three 5.0 0.0 90.0))).tail
      (.attempt List.mem_cons_self default)
  have visit : sampleVisited.stage.world.generation? = some 1 ∧
      (sampleVisited.stage.world.programs.forest three).map Block.id = [⟨Uuid.ofNat 1⟩] := by
    rw [sampleVisited_world]
    decide +kernel
  have meeting : (met.programs.forest three).map Block.id = [⟨Uuid.ofNat 1⟩] ∧
      (met.tickTogether default).1 = [] := by
    decide +kernel
  have sound : sampleVisited.stage.world.Sound := by
    rw [sampleVisited_world]
    exact sampleWorld_sound.start.after_history _ ⟨stillNew, trivial, trivial, trivial⟩
  have attempted := attempts sampleWorld Settings.standard (fun _ => default) stage [] []
    sampleVisited three sampleDriver default idle .refl rfl visited visit.1 sound new
    List.mem_cons_self
  refine ⟨new, ?_, meeting.1, ?_, meeting.2, ?_, visit.2, attempted⟩
  · exact reaches _ _ one 1 default _ sampleWorld_sound.start ticked
  · exact overlooks sampleWorld sampleVisit (sampleArrival ++ [.sweep default]) [] _ three
      sampleWorld_sound idle allowed belong new rfl rfl
  · have begins : Step (opening sampleWorld Settings.standard fun _ => default)
        (begun stage [] []) := .begin rfl rfl
    exact .head begins visited

end Sample

end Backstage

end SpriteStage
