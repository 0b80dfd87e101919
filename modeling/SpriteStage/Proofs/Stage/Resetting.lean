import SpriteStage.Proofs.Stage.Lifecycle
import SpriteStage.Proofs.World.Baselines

namespace SpriteStage

/-!
# What a reset gives back

A chronicle of a stage keeps every actor as it was when it came.  Whatever
happens then, in whatever order, the baseline of everyone who is there is the
one in the chronicle.  A reset therefore gives back the poses from the
chronicle.  It ends the run before it does, and runs that begin later are
younger, so no driver from before can move an actor away again.
-/

def recorded? (records : List Actor) (id : ActorId) : Option Actor :=
  records.find? fun record => record.id = id

theorem recorded?_cons (record : Actor) (records : List Actor) (id : ActorId) :
    recorded? (record :: records) id =
      if record.id = id then some record else recorded? records id := by
  rw [recorded?, List.find?_cons]
  by_cases same : record.id = id <;> simp [same, recorded?]

def Cast.newcomers (before after : Cast) : List Actor :=
  after.actors.filter fun actor => !before.contains actor.id

namespace Cast

variable {before after : Cast}

theorem newcomers_of_sublist (shrunk : after.baselines.Sublist before.baselines) :
    newcomers before after = [] := by
  rw [newcomers, List.filter_eq_nil_iff]
  intro actor member
  rcases exists_of_mem_baselines (shrunk.subset (mem_baselines member)) with
    ⟨old, oldMember, same, _⟩
  have there : before.contains actor.id = true :=
    contains_iff_mem_ids.2 (same ▸ List.mem_map_of_mem oldMember)
  rw [there]
  exact Bool.false_ne_true

theorem newcomers_of_append {created : Actor} (joined : after.actors = before.actors ++ [created])
    (distinct : after.ids.Nodup) : newcomers before after = [created] := by
  have ids : after.ids = before.ids ++ [created.id] := by
    rw [Cast.ids, joined, List.map_append]
    rfl
  have new : before.contains created.id = false := by
    rw [ids, List.nodup_append] at distinct
    rw [Bool.eq_false_iff, ne_eq, contains_iff_mem_ids]
    exact fun taken => distinct.2.2 _ taken _ (List.mem_singleton.2 rfl) rfl
  have old : before.actors.filter (fun actor => !before.contains actor.id) = [] := by
    rw [List.filter_eq_nil_iff]
    intro actor member
    rw [contains_iff_mem_ids.2 (List.mem_map_of_mem member)]
    exact Bool.false_ne_true
  rw [newcomers, joined, List.filter_append, old, List.filter_singleton, new]
  rfl

end Cast

namespace Backstage

variable {beginning state next : Backstage} {records : List Actor}

def cast (state : Backstage) : Cast := state.stage.world.cast

/-- A history of a stage with the actors as they were when they came, the
latest first.  No two actors are there under one identifier. -/
inductive Chronicle (beginning : Backstage) : List Actor -> Backstage -> Prop
  | start : Chronicle beginning beginning.cast.actors beginning
  | step {records : List Actor} {state next : Backstage}
      (before : Chronicle beginning records state) (happens : Step state next)
      (distinct : next.cast.ids.Nodup) :
      Chronicle beginning (Cast.newcomers state.cast next.cast ++ records) next

/-- From one world to another, everyone goes back to the pose in the records
and falls silent, and nothing else changes. -/
structure Restores (records : List Actor) (before after : World) : Prop where
  idle : after.run = none
  /-- A driver of the run that ended does nothing. -/
  still : forall actor generation now, after.tick actor generation now = (.outdated, after)
  home : forall actor, actor ∈ after.cast.actors -> Exists fun record =>
    recorded? records actor.id = some record ∧ actor.pose = record.baseline
  silent : forall actor, actor ∈ after.cast.actors -> actor.speech = none
  kept : after.cast.actors.map (fun actor => (actor.id, actor.name, actor.color)) =
    before.cast.actors.map fun actor => (actor.id, actor.name, actor.color)
  programs : after.programs = before.programs

/-- The active run, if there is one, began after a number of others. -/
def Since (count : Nat) (world : World) : Prop :=
  count ≤ world.generations ∧
    forall generation, world.generation? = some generation -> count < generation

/-- What holds of a stage and the records of its chronicle. -/
structure Faithful (beginning : Backstage) (records : List Actor) (state : Backstage) : Prop where
  /-- A record is that of an actor of the beginning, or of one that came at its
  own baseline. -/
  origin : forall record, record ∈ records ->
    record ∈ beginning.cast.actors ∨ (record.pose = record.baseline ∧ record.speech = none)
  /-- Everyone has the baseline that it came with. -/
  remembered : forall actor, actor ∈ state.cast.actors -> Exists fun record =>
    recorded? records actor.id = some record ∧ actor.baseline = record.baseline
  /-- Nothing that can happen next changes a baseline. -/
  steady : forall next, Step state next -> next.cast.ids.Nodup ->
    forall actor, actor ∈ state.cast.actors -> forall later, later ∈ next.cast.actors ->
      later.id = actor.id -> later.baseline = actor.baseline
  /-- A call to reset the stage leaves no session, and gives the poses back. -/
  reset : state.phase = .between ->
    state.stage.reset.session = none ∧
      Restores records state.stage.world state.stage.reset.world
  /-- So it does when other things come between the parts of the call. -/
  midway : state.phase = .closed ->
    Restores records state.stage.world state.stage.world.restore
  /-- Whatever comes after the call, a driver from before it does nothing. -/
  retired : state.phase = .between ->
    Exists fun log =>
      Steps state ⟨state.stage.reset, .between, state.drivers, log⟩ ∧
        forall later, Steps ⟨state.stage.reset, .between, state.drivers, log⟩ later ->
          forall driver, driver ∈ state.drivers -> forall now, later.attempt driver now = later

/-! ## One step -/

/-- What happens next adds nobody and changes no baseline, or it adds one
actor. -/
theorem Step.baselines (happens : Step state next) :
    next.cast.baselines.Sublist state.cast.baselines ∨
      Exists fun created : Actor => created.pose = created.baseline ∧ created.speech = none ∧
        next.cast.actors = state.cast.actors ++ [created] := by
  have kept : next.cast.baselines = state.cast.baselines ->
      next.cast.baselines.Sublist state.cast.baselines := by
    intro same
    rw [same]
  cases happens with
  | begin => exact Or.inl (kept (World.baselines_start _))
  | announce => exact Or.inl (kept rfl)
  | staff => exact Or.inl (kept rfl)
  | settle => exact Or.inl (kept rfl)
  | cancel => exact Or.inl (kept rfl)
  | @close stage => exact Or.inl (kept (congrArg (·.cast.baselines) stage.timeline.close_world))
  | skip => exact Or.inl (kept rfl)
  | restore => exact Or.inl (kept (Cast.baselines_reset _))
  | proclaim => exact Or.inl (kept rfl)
  | edit request =>
    rw [request.perform_eq_apply]
    cases request.operation? with
    | none => exact Or.inl (List.Sublist.refl _)
    | some operation =>
      rcases operation.baselines_apply state.stage.world with
        shrunk | ⟨created, _, home, silent, joined⟩
      · exact Or.inl shrunk
      · exact Or.inr ⟨created, home, silent, joined⟩
  | attempt started now => exact Or.inl (kept (World.baselines_tick _ _ _ _))

/-- Nothing that happens changes the baseline of an actor that stays. -/
theorem Step.steady (happens : Step state next) (distinct : state.cast.ids.Nodup)
    (nextDistinct : next.cast.ids.Nodup) {actor later : Actor}
    (member : actor ∈ state.cast.actors) (laterMember : later ∈ next.cast.actors)
    (same : later.id = actor.id) : later.baseline = actor.baseline := by
  rcases happens.baselines with shrunk | ⟨created, _, _, joined⟩
  · have listed := shrunk.subset (Cast.mem_baselines laterMember)
    rw [same] at listed
    exact Cast.baseline_unique distinct listed (Cast.mem_baselines member)
  · have stays : actor ∈ next.cast.actors := by
      rw [joined]
      exact List.mem_append_left _ member
    have listed := Cast.mem_baselines laterMember
    rw [same] at listed
    exact Cast.baseline_unique nextDistinct listed (Cast.mem_baselines stays)

/-- Edits keep identifiers distinct, if no actor joins under one that is taken. -/
theorem distinct_edit (distinct : state.cast.ids.Nodup) (request : Request)
    (new : forall fresh, request.operation? = some (.spawn fresh) -> fresh ∉ state.cast.ids) :
    (cast { state with stage := request.perform state.stage }).ids.Nodup := by
  rw [cast, request.perform_eq_apply]
  cases asked : request.operation? with
  | none => exact distinct
  | some operation =>
    rcases operation.baselines_apply state.stage.world with
      shrunk | ⟨created, rfl, _, _, joined⟩
    · have fewer := shrunk.map Prod.fst
      rw [Cast.map_fst_baselines, Cast.map_fst_baselines] at fewer
      exact distinct.sublist fewer
    · have ids : ((Operation.spawn created.id).apply state.stage.world).cast.ids =
          state.cast.ids ++ [created.id] := by
        rw [Cast.ids, joined, List.map_append]
        rfl
      change ((Operation.spawn created.id).apply state.stage.world).cast.ids.Nodup
      rw [ids, List.nodup_append_comm]
      exact List.nodup_cons.2 ⟨new created.id asked, distinct⟩

/-! ## Chronicles -/

namespace Chronicle

theorem steps (chronicle : Chronicle beginning records state) : Steps beginning state := by
  induction chronicle with
  | start => exact .refl
  | step _ happens _ path => exact path.tail happens

theorem distinct (settled : beginning.cast.ids.Nodup)
    (chronicle : Chronicle beginning records state) : state.cast.ids.Nodup := by
  cases chronicle with
  | start => exact settled
  | step _ _ distinct => exact distinct

theorem origin (chronicle : Chronicle beginning records state) :
    forall record, record ∈ records ->
      record ∈ beginning.cast.actors ∨ (record.pose = record.baseline ∧ record.speech = none) := by
  induction chronicle with
  | start => exact fun _ member => Or.inl member
  | step _ happens nextDistinct earlier =>
    intro record member
    rcases happens.baselines with shrunk | ⟨created, home, silent, joined⟩
    · rw [Cast.newcomers_of_sublist shrunk] at member
      exact earlier record member
    · rw [Cast.newcomers_of_append joined nextDistinct] at member
      rcases List.mem_cons.1 member with rfl | old
      · exact Or.inr ⟨home, silent⟩
      · exact earlier record old

/-- Everyone who is there has the baseline of its latest record. -/
theorem remembered (settled : beginning.cast.ids.Nodup)
    (chronicle : Chronicle beginning records state) :
    forall actor, actor ∈ state.cast.actors -> Exists fun record =>
      recorded? records actor.id = some record ∧ actor.baseline = record.baseline := by
  induction chronicle with
  | start =>
    intro actor member
    exact ⟨actor, Cast.get?_of_mem settled member, rfl⟩
  | @step _ _ next before happens nextDistinct remembered =>
    intro actor member
    rcases happens.baselines with shrunk | ⟨created, _, _, joined⟩
    · rcases Cast.exists_of_mem_baselines (shrunk.subset (Cast.mem_baselines member)) with
        ⟨old, oldMember, sameId, sameBaseline⟩
      rw [Cast.newcomers_of_sublist shrunk, List.nil_append, ← sameId, ← sameBaseline]
      exact remembered old oldMember
    · rw [Cast.newcomers_of_append joined nextDistinct, List.singleton_append, recorded?_cons]
      by_cases same : created.id = actor.id
      · have last : created ∈ next.cast.actors := by
          rw [joined]
          exact List.mem_append_right _ List.mem_cons_self
        refine ⟨created, if_pos same, ?_⟩
        have listed := Cast.mem_baselines last
        rw [same] at listed
        exact Cast.baseline_unique nextDistinct (Cast.mem_baselines member) listed
      · rw [joined] at member
        rw [if_neg same]
        rcases List.mem_append.1 member with old | new
        · exact remembered actor old
        · exact absurd (congrArg Actor.id (List.mem_singleton.1 new).symm) same

end Chronicle

/-! ## Resets -/

/-- A world without a run, whose actors go back, gives back the baselines. -/
theorem restores_restore {world : World}
    (remembered : forall actor, actor ∈ world.cast.actors -> Exists fun record =>
      recorded? records actor.id = some record ∧ actor.baseline = record.baseline) :
    Restores records world { world with run := none }.restore := by
  refine ⟨rfl, fun _ _ _ => rfl, ?_, ?_, ?_, rfl⟩
  · intro actor member
    rcases List.mem_map.1 member with ⟨old, oldMember, rfl⟩
    exact remembered old oldMember
  · intro actor member
    rcases List.mem_map.1 member with ⟨old, _, rfl⟩
    rfl
  · exact List.map_map

/-- A call to reset a stage ends the run, if there is one, and sends everyone
back. -/
theorem Consistent.reset_world (consistent : state.Consistent) (between : state.phase = .between) :
    state.stage.reset.session = none ∧
      state.stage.reset.world = { state.stage.world with run := none }.restore := by
  rcases state with ⟨stage, phase, drivers, log⟩
  cases between
  cases taken : stage.session with
  | none =>
    have idle := consistent.idle taken
    refine ⟨?_, ?_⟩
    · rw [Stage.reset, Stage.stop, taken]
      exact taken
    · rw [Stage.reset, Stage.stop, taken, ← idle]
      rfl
  | some session =>
    rw [Stage.reset, Stage.stop, taken]
    exact ⟨rfl, congrArg World.restore (stage.timeline.cancel session).close_world⟩

/-! ## Drivers from before -/

theorem Since.congr {count : Nat} {before after : World} (since : Since count before)
    (same : World.SameRun before after) : Since count after := by
  rw [Since, same.generations, same.generation]
  exact since

/-- A run that begins is younger than all that came before it. -/
theorem Consistent.since {count : Nat} (consistent : state.Consistent) (happens : Step state next)
    (since : Since count state.stage.world) : Since count next.stage.world := by
  cases happens with
  | begin hasClock free =>
    rcases World.start_of_idle (consistent.idle free) with ⟨_, active, generations⟩
    refine ⟨Nat.le_trans (Nat.le_succ_of_le since.1) (Nat.le_of_eq generations.symm), ?_⟩
    intro generation activeNow
    cases active.symm.trans activeNow
    exact Nat.lt_succ_of_le since.1
  | @close stage =>
    change Since count stage.timeline.close.world
    rw [stage.timeline.close_world]
    exact ⟨since.1, nofun⟩
  | restore => exact since.congr (.of_run _ _ _)
  | edit request =>
    rcases request.perform_eq state.stage with ⟨world, performed, same⟩
    rw [performed]
    exact since.congr same
  | attempt started now => exact since.congr (.tick _ _ _)
  | _ => exact since

theorem Consistent.since_steps {count : Nat} (consistent : state.Consistent)
    (path : Steps state next) (since : Since count state.stage.world) :
    Since count next.stage.world := by
  induction path with
  | refl => exact since
  | tail earlier happens before => exact (consistent.steps earlier).since happens before

/-- No driver that was started before a reset does anything after it. -/
theorem Consistent.retired (consistent : state.Consistent) (between : state.phase = .between) :
    Exists fun log =>
      Steps state ⟨state.stage.reset, .between, state.drivers, log⟩ ∧
        forall later, Steps ⟨state.stage.reset, .between, state.drivers, log⟩ later ->
          forall driver, driver ∈ state.drivers -> forall now, later.attempt driver now = later := by
  have back := (consistent.reset_world between).2
  rcases state with ⟨stage, phase, drivers, log⟩
  cases between
  have reaches : Exists fun ending => Steps ⟨stage, .between, drivers, log⟩
      ⟨stage.reset, .between, drivers, log ++ ending ++ [.reset]⟩ := reset_steps
  rcases reaches with ⟨ending, path⟩
  refine ⟨_, path, ?_⟩
  intro later onward driver started now
  have young : Since stage.world.generations stage.reset.world := by
    rw [back]
    exact ⟨Nat.le_refl _, nofun⟩
  have since := (consistent.steps path).since_steps onward young
  apply attempt_outdated
  intro active
  have old := consistent.past _ (consistent.staffed driver started)
  exact Nat.lt_irrefl _ (Nat.lt_of_lt_of_le (since.2 _ active) old)

/-! ## Any history -/

/-- On any stage of actors with distinct identifiers, whatever came before, in
whatever order: no baseline has changed and none can change next, and a reset
gives everyone the pose it came with and retires every driver.

Names are not given back, nor are programs: a reset concerns poses, bubbles and
the run.  The records tell who came with which pose, also for actors that have
left, and an identifier may be used again after its actor has left. -/
theorem reset_restores_creation {world : World} (idle : world.run = none)
    (distinct : world.cast.ids.Nodup) (settings : Settings) (hasClock : Bool)
    (timeOfDay : Nat -> Instant) {records : List Actor} {state : Backstage}
    (chronicle : Chronicle (ofStage (Stage.ofWorld world settings hasClock timeOfDay)) records
      state) :
    Faithful (ofStage (Stage.ofWorld world settings hasClock timeOfDay)) records state := by
  have consistent := (Consistent.ofWorld idle settings hasClock timeOfDay).steps chronicle.steps
  have settled : (ofStage (Stage.ofWorld world settings hasClock timeOfDay)).cast.ids.Nodup :=
    distinct
  have remembered := chronicle.remembered settled
  refine ⟨chronicle.origin, remembered, ?_, ?_, ?_, consistent.retired⟩
  · intro next happens nextDistinct actor member later laterMember same
    exact happens.steady (chronicle.distinct settled) nextDistinct member laterMember same
  · intro between
    rcases consistent.reset_world between with ⟨free, back⟩
    rw [back]
    exact ⟨free, restores_restore remembered⟩
  · intro closed
    have inPhase := consistent.phase
    rw [closed] at inPhase
    have ended : { state.stage.world with run := none } = state.stage.world := by
      rw [← inPhase.2]
    have restores := restores_restore remembered
    rw [ended] at restores
    exact restores

section Sample

def sampleBeginning : Backstage :=
  ofStage (Stage.ofWorld sampleWorld Settings.standard true fun _ => default)

/-- A run has begun, and the actor has said its word. -/
def sampleSpoken : Backstage := sampleOpened.attempt sampleDriver default

def sampleJoined : Backstage :=
  { sampleSpoken with stage := (Request.spawn ⟨Uuid.ofNat 3⟩).perform sampleSpoken.stage }

def samplePlaced : Backstage :=
  { sampleJoined with
    stage := (Request.place ⟨Uuid.ofNat 3⟩ 7.0 8.0 9.0).perform sampleJoined.stage }

theorem sampleSpoken_recorded :
    Exists fun records => Chronicle sampleBeginning records sampleSpoken := by
  have begins : Chronicle sampleBeginning _ _ := .start
  have begun := begins.step (.begin rfl rfl) (by decide)
  have announced := begun.step .announce (by decide)
  have first := announced.step .staff (by decide)
  have second := first.step .staff (by decide)
  have opened : Chronicle _ _ sampleOpened := second.step .settle (by decide)
  exact ⟨_, opened.step (.attempt List.mem_cons_self default) (by decide +kernel)⟩

theorem samplePlaced_recorded :
    Exists fun records => Chronicle sampleBeginning records samplePlaced := by
  rcases sampleSpoken_recorded with ⟨records, spoken⟩
  have spokenIds : sampleSpoken.cast.ids = [⟨Uuid.ofNat 1⟩, ⟨Uuid.ofNat 2⟩] := by decide +kernel
  have spokenDistinct : sampleSpoken.cast.ids.Nodup := by
    rw [spokenIds]
    decide
  have joinedDistinct : sampleJoined.cast.ids.Nodup := by
    apply distinct_edit spokenDistinct
    rintro fresh ⟨⟩
    rw [spokenIds]
    decide
  have placedDistinct : samplePlaced.cast.ids.Nodup := distinct_edit joinedDistinct _ nofun
  have joined : Chronicle _ _ sampleJoined := spoken.step (.edit _) joinedDistinct
  exact ⟨_, joined.step (.edit _) placedDistinct⟩

/-- A reset during the run. -/
theorem samplePlaced_restored :
    sampleWorld.run = none ∧ sampleWorld.cast.ids.Nodup ∧
      samplePlaced.stage.isActive = true ∧
      Exists fun records => Chronicle sampleBeginning records samplePlaced ∧
        Restores records samplePlaced.stage.world samplePlaced.stage.reset.world := by
  have idle : sampleWorld.run = none := rfl
  have distinct : sampleWorld.cast.ids.Nodup := by decide
  rcases samplePlaced_recorded with ⟨records, recorded⟩
  have faithful := reset_restores_creation idle distinct Settings.standard true
    (fun _ => default) recorded
  have active : samplePlaced.stage.isActive = true := by
    rw [samplePlaced, sampleJoined, Request.perform_eq_apply, Request.perform_eq_apply]
    exact (by decide +kernel : sampleSpoken.stage.isActive = true)
  exact ⟨idle, distinct, active, records, recorded, (faithful.reset rfl).2⟩

end Sample

end Backstage

end SpriteStage
