import SpriteStage.Proofs.World.Bystanders
import SpriteStage.Proofs.World.Lifetime
import SpriteStage.Proofs.World.Shuffle

namespace SpriteStage

/-!
# How far a tick reaches

A tick of one actor changes the pose and the speech of that actor, and of
nobody else.  Nobody gets another name, colour, baseline or place in the cast,
and no block gets another kind or parameter.  Programs and progress change for
the actor itself and for those in the collisions that the tick announces.

In a run only the actors walk that were there when it began.  So a tick
overlooks everyone who came later, also one that a collision gave a program:
neither the pose nor the speech changes, and no block is executed.
-/

/-- What an actor is known by: all but its pose and its speech. -/
def Actor.character (actor : Actor) : ActorId × String × Pose × String :=
  (actor.id, actor.name, actor.baseline, actor.color)

theorem Actor.character_effects (now : Instant) (actions : List Action) :
    forall actor : Actor, (Action.effects now actions actor).character = actor.character := by
  induction actions with
  | nil => exact fun _ => rfl
  | cons action rest step => exact fun actor => step (action.effect now actor)

namespace World

/-- What a tick of an actor reaches, given the events that it returns. -/
structure Reaches (actor : ActorId) (before : World) (events : List Event) (after : World) :
    Prop where
  others : forall other, other ≠ actor -> after.cast.get? other = before.cast.get? other
  /-- In order, everyone is still known by the same. -/
  characters : after.cast.actors.map Actor.character = before.cast.actors.map Actor.character
  kinds : forall id, (after.programs.find? id).map Block.kind =
    (before.programs.find? id).map Block.kind
  forests : forall other, ¬ Involved (collidedPairs events) other ->
    after.programs.forest other = before.programs.forest other
  entries : forall other, other ≠ actor -> ¬ Involved (collidedPairs events) other ->
    forall block, after.entryAt? other block = before.entryAt? other block

variable {View : Type} {view : Actor -> View} {world after : World} {actor : ActorId}
  {generation : Nat} {now : Instant} {events : List Event}

/-- A tick that is not outdated and whose actor is there reaches the actor,
those in the collisions that it announces, and nothing else. -/
theorem Sound.tick_reaches (sound : world.Sound)
    (ticked : world.tick actor generation now = (.acted events, after)) :
    Reaches actor world events after := by
  rcases world.tick_cases actor generation now with same | same | ⟨_, same⟩
  · cases same.symm.trans ticked
  · cases same.symm.trans ticked
  · cases same.symm.trans ticked
    let stepped := (world.step actor now).2
    have soundStepped : stepped.Sound := sound.step
    have carried := (world.step_carries actor now).1
    have sameCast : (stepped.sweep now).2.cast = stepped.cast := stepped.sweep_cast
    have pairs : collidedPairs ((world.step actor now).1 ++ (stepped.sweep now).1) =
        collidedPairs (stepped.sweep now).1 := by
      rw [collidedPairs_append, collidedPairs_step, List.nil_append]
    have spared : forall other,
        ¬ Involved (collidedPairs ((world.step actor now).1 ++ (stepped.sweep now).1)) other ->
          Spares other stepped (stepped.sweep now).1 (stepped.sweep now).2 := by
      intro other uninvolved
      rw [pairs] at uninvolved
      apply sweep_spares (soundStepped.programs.secludes other)
      intro pair member
      exact Bool.eq_false_iff.2 fun involves => uninvolved ⟨pair, member, involves⟩
    refine ⟨?_, ?_, ?_, ?_, ?_⟩
    · intro other different
      rw [sameCast, carried, Cast.get?_modify (Action.id_effects now _), if_neg different]
    · rw [sameCast, carried]
      exact Cast.map_modifyFirst Actor.character (Actor.character_effects now _) world.cast.actors
    · intro id
      rw [sweep_programs soundStepped.distinct, soundStepped.programs.kind_exchangeAll]
      exact congrArg (fun programs => (programs.find? id).map Block.kind) world.step_programs
    · intro other uninvolved
      rw [(spared other uninvolved).agree.forest]
      exact congrArg (fun programs => programs.forest other) world.step_programs
    · intro other different uninvolved block
      have walked : AgreeOn Actor.pose other stepped world :=
        (step_agrees (Ne.symm different) world now).1
      exact ((spared other uninvolved).agree.trans walked).entries block

/-! ## Walks of others -/

/-- Walks of others do not concern an actor. -/
theorem walks_agree (walkers : List ActorId) (outside : actor ∉ walkers) :
    forall world : World,
      AgreeOn view actor (collect (fun walker => step walker now) walkers world).2 world := by
  induction walkers with
  | nil => exact fun world => .refl world
  | cons walker rest step =>
    intro world
    rw [List.mem_cons, not_or] at outside
    exact (step outside.2 _).trans (step_agrees (Ne.symm outside.1) world now).1

/-- What is executed in some walks are commands of the programs of the walkers. -/
theorem mem_ids_of_mem_executedInTurn {command : BlockId × Action} (walkers : List ActorId) :
    forall world : World, command ∈ executedInTurn now walkers world ->
      Exists fun walker => walker ∈ walkers ∧
        command.1 ∈ Forest.ids (world.programs.forest walker) := by
  induction walkers with
  | nil => exact fun _ member => absurd member List.not_mem_nil
  | cons walker rest step =>
    intro world member
    rw [executedInTurn, List.mem_append] at member
    rcases member with own | later
    · refine ⟨walker, List.mem_cons_self, ?_⟩
      rw [executedBy] at own
      cases active : world.run with
      | none =>
        rw [active] at own
        exact absurd own List.not_mem_nil
      | some run =>
        rw [active] at own
        exact Walk.mem_ids_of_mem_executed _ _ (List.mem_map_of_mem own)
    · rcases step _ later with ⟨other, listed, inside⟩
      rw [world.step_programs] at inside
      exact ⟨other, List.mem_cons_of_mem _ listed, inside⟩

end World

/-! ## Actors that a run does not drive -/

namespace Operation

/-- Whether an operation neither changes an actor nor executes a block of it. -/
structure Overlooks (actor : ActorId) (world : World) (operation : Operation) : Prop where
  seen : (operation.apply world).cast.get? actor = world.cast.get? actor
  idle : forall command, command ∈ operation.executed world ->
    command.1 ∉ Forest.ids (world.programs.forest actor)

/-- Whether an operation can belong to a run of a generation: it does not end
the run, and if it is a tick for it, then of an actor that the run drives. -/
def Belongs (generation : Nat) (driven : List ActorId) : Operation -> Prop
  | .tick actor other _ => other = generation -> actor ∈ driven
  | .finish => False
  | _ => True

variable {world : World} {operation : Operation} {actor : ActorId} {generation : Nat}
  {driven : List ActorId}

/-- Whoever does not walk in a round is overlooked by it. -/
theorem overlooks_of_notMem (sound : world.Sound) (timed : operation.isTimed = true)
    (outside : actor ∉ operation.walkers world) : operation.Overlooks actor world := by
  rw [walkers] at outside
  rcases timed_cases timed with ⟨nothing, same, _⟩ | ⟨walkers, now, happens, rounds, _⟩
  · refine ⟨by rw [same], ?_⟩
    rw [executed, nothing]
    exact fun _ member => absurd member List.not_mem_nil
  · rw [happens] at outside
    refine ⟨?_, ?_⟩
    · have agree : World.AgreeOn id actor
          (World.collect (fun walker => World.step walker now) walkers world).2 world :=
        World.walks_agree walkers outside world
      have seen := agree.seen
      rw [Option.map_id, id_eq, id_eq] at seen
      rw [rounds, World.round, World.sweep_cast]
      exact seen
    · intro command member inside
      rw [executed, happens] at member
      rcases World.mem_ids_of_mem_executedInTurn walkers world member with
        ⟨walker, listed, insideToo⟩
      exact outside (sound.programs.owner_unique inside insideToo ▸ listed)

theorem walkers_subset (active : world.identity? = some (generation, driven))
    (belongs : operation.Belongs generation driven) : operation.walkers world ⊆ driven := by
  rcases Option.map_eq_some_iff.1 active with ⟨run, runIs, identity⟩
  rw [Prod.mk.injEq] at identity
  rcases identity with ⟨rfl, rfl⟩
  cases operation with
  | tick other tickFor now =>
    rw [walkers, round?, runIs]
    dsimp only
    by_cases current : run.generation = tickFor ∧ world.cast.contains other = true
    · rw [if_pos current]
      exact fun walker listed => List.mem_singleton.1 listed ▸ belongs current.1.symm
    · rw [if_neg current]
      exact List.nil_subset _
  | tickTogether now =>
    rw [walkers, round?, runIs]
    exact List.filter_subset_self _
  | _ => exact List.nil_subset _

end Operation

namespace World

variable {world : World} {operation : Operation} {generation : Nat} {driven : List ActorId}

/-- What belongs to a run leaves it the same. -/
theorem identity_apply (active : world.identity? = some (generation, driven))
    (belongs : operation.Belongs generation driven) :
    (operation.apply world).identity? = some (generation, driven) := by
  by_cases starts : operation = .start
  · rcases Option.map_eq_some_iff.1 active with ⟨run, runIs, _⟩
    have unchanged : world.start.2 = world := by
      rw [start, runIs]
    rw [starts, Operation.apply, unchanged]
    exact active
  · have goesOn : operation ≠ .finish := by
      rintro rfl
      exact belongs
    exact (SameRun.apply world starts goesOn).identity.trans active

theorem identity_after (history : List Operation) :
    forall world : World, world.identity? = some (generation, driven) ->
      (forall operation, operation ∈ history -> operation.Belongs generation driven) ->
      (world.after history).identity? = some (generation, driven) := by
  induction history with
  | nil => exact fun _ active _ => active
  | cons operation rest step =>
    intro world active belong
    exact step _ (identity_apply active (belong operation List.mem_cons_self))
      fun later member => belong later (List.mem_cons_of_mem _ member)

theorem identity_start (idle : world.run = none) :
    world.start.2.identity? = some (world.start.1, world.cast.ids) := by
  rw [start, idle]
  rfl

/-- In the course of a run, ticks and sweeps overlook whoever was not there
when it began. -/
theorem Sound.overlooks_newcomer (sound : world.Sound) (idle : world.run = none)
    {during early late : List Operation} (allowed : world.start.2.Allows during)
    (belong : forall operation, operation ∈ during ->
      operation.Belongs world.start.1 world.cast.ids)
    (split : during = early ++ operation :: late) (timed : operation.isTimed = true)
    {newcomer : ActorId} (new : newcomer ∉ world.cast.ids) :
    operation.Overlooks newcomer (world.start.2.after early) := by
  rw [split] at allowed belong
  have soundNow := sound.start.after_history early (allows_append.1 allowed).1
  have active := identity_after early _ (identity_start idle)
    fun earlier member => belong earlier (List.mem_append_left _ member)
  have own := belong operation (List.mem_append_right _ List.mem_cons_self)
  exact Operation.overlooks_of_notMem soundNow timed
    fun walks => new (Operation.walkers_subset active own walks)

end World

end SpriteStage
