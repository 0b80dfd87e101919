import SpriteStage.Proofs.World.Edit
import SpriteStage.Proofs.World.Frame
import SpriteStage.Proofs.World.History

namespace SpriteStage

/-!
# The lifetime of a run

Only two operations begin or end a run.  All others leave it the same run: its
generation, the actors that it drives, and the count of the runs that have
begun stay as they are.  This holds in every world, sound or not.
-/

namespace World

/-- The generation of the active run and the actors that it drives. -/
def identity? (world : World) : Option (Nat × List ActorId) :=
  world.run.map fun run => (run.generation, run.driven)

def generation? (world : World) : Option Nat := world.run.map Run.generation

theorem isSome_generation? (world : World) : world.generation?.isSome = world.run.isSome :=
  Option.isSome_map

/-- What is the same before and after everything that neither begins nor ends
a run. -/
structure SameRun (before after : World) : Prop where
  generations : after.generations = before.generations
  identity : after.identity? = before.identity?

namespace SameRun

variable {world before middle after : World} {actor : ActorId} {now : Instant}

theorem refl (world : World) : SameRun world world := ⟨rfl, rfl⟩

theorem trans (one : SameRun before middle) (next : SameRun middle after) :
    SameRun before after :=
  ⟨next.generations.trans one.generations, next.identity.trans one.identity⟩

theorem active (same : SameRun before after) : after.run.isSome = before.run.isSome := by
  have isSome := congrArg Option.isSome same.identity
  rwa [identity?, identity?, Option.isSome_map, Option.isSome_map] at isSome

theorem generation (same : SameRun before after) : after.generation? = before.generation? := by
  have both := congrArg (Option.map Prod.fst) same.identity
  rwa [identity?, identity?, Option.map_map, Option.map_map] at both

theorem idle (same : SameRun before after) : after.run = none <-> before.run = none := by
  rw [← Option.isNone_iff_eq_none, ← Option.isNone_iff_eq_none, ← Option.not_isSome,
    ← Option.not_isSome, same.active]

/-! ## Edits -/

theorem of_run (world : World) (cast : Cast) (programs : Programs) :
    SameRun world { world with cast := cast, programs := programs } := ⟨rfl, rfl⟩

/-- A change of the progress and the debounce set. -/
theorem of_change (world : World) (change : Run -> Run)
    (keeps : forall run, (change run).generation = run.generation ∧
      (change run).driven = run.driven) (cast : Cast) (programs : Programs) :
    SameRun world { world with
      cast := cast
      programs := programs
      run := world.run.map change } := by
  refine ⟨rfl, ?_⟩
  rw [identity?, identity?]
  dsimp only
  rw [Option.map_map]
  congr 1
  funext run
  exact Prod.ext (keeps run).1 (keeps run).2

theorem of_forget (world : World) (cast : Cast) (programs : Programs) (actor : ActorId) :
    SameRun world { world with
      cast := cast
      programs := programs
      run := world.run.map fun run => run.forget actor } :=
  of_change world (fun run => run.forget actor) (fun _ => ⟨rfl, rfl⟩) cast programs

theorem of_reprogrammed (edit : Reprogrammed before after) : SameRun before after := by
  cases edit with
  | edited programs => exact of_run before before.cast programs
  | forgotten programs owner node =>
    exact of_change before (fun run => run.forgetTree owner node) (fun _ => ⟨rfl, rfl⟩) before.cast
      programs

theorem dismiss (world : World) (actor : ActorId) : SameRun world (world.dismiss actor).world := by
  rcases world.dismiss_cases actor with same | ⟨removed, cast, _, same⟩
  · rw [same]
    exact .refl world
  · rw [same]
    exact of_forget world cast _ actor

/-! ## Ticks -/

theorem step (world : World) : SameRun world (world.step actor now).2 := by
  unfold World.step
  cases active : world.run with
  | none => exact .refl world
  | some run =>
    refine ⟨rfl, ?_⟩
    rw [identity?, identity?, active]
    rfl

theorem collide (world : World) (pair : ActorPair) :
    SameRun world (world.collide now pair).2 := by
  unfold World.collide
  split
  · rename_i run first second active _ _
    refine ⟨rfl, ?_⟩
    rw [identity?, identity?, active]
    rfl
  · exact .refl world

theorem sweep (world : World) : SameRun world (world.sweep now).2 := by
  unfold World.sweep
  cases active : world.run with
  | none => exact .refl world
  | some run =>
    apply collect_of_preserved (SameRun world) fun pair _ same => same.trans (collide _ pair)
    refine ⟨rfl, ?_⟩
    rw [identity?, identity?, active]
    rfl

theorem tick (world : World) (actor : ActorId) (generation : Nat) :
    SameRun world (world.tick actor generation now).2 := by
  rcases world.tick_cases actor generation now with same | same | ⟨_, same⟩
  · rw [same]
    exact .refl world
  · rw [same]
    exact .refl world
  · rw [same]
    exact (step world).trans (sweep _)

theorem tickTogether (world : World) : SameRun world (world.tickTogether now).2 := by
  unfold World.tickTogether
  split
  · exact .refl world
  · refine SameRun.trans ?_ (sweep _)
    refine collect_of_preserved (SameRun world) ?_ _ world (.refl world)
    intro actor middle same
    unfold stepPresent
    split
    · exact same.trans (step middle)
    · exact same

/-- Every operation that neither begins nor ends a run leaves it the same. -/
theorem apply (world : World) {operation : Operation} (notStart : operation ≠ .start)
    (notFinish : operation ≠ .finish) : SameRun world (operation.apply world) := by
  cases operation with
  | spawn fresh =>
    rw [Operation.apply]
    split
    · rename_i next spawned
      rcases spawn_eq_ok spawned with ⟨cast, _, rfl⟩
      exact of_run world cast world.programs
    · exact .refl world
  | rename actor name =>
    rw [Operation.apply, rename_world]
    exact of_run world _ _
  | place actor x y heading =>
    rw [Operation.apply, place_world]
    exact of_run world _ _
  | dismiss actor => exact dismiss world actor
  | insert node parent actor => exact of_reprogrammed (world.reprogrammed_insert node parent actor)
  | remove block => exact of_reprogrammed (world.reprogrammed_remove block)
  | move block actor parent => exact of_reprogrammed (world.reprogrammed_move block actor parent)
  | adjust block name value => exact of_reprogrammed (world.reprogrammed_adjust block name value)
  | start => exact absurd rfl notStart
  | finish => exact absurd rfl notFinish
  | restore => exact of_run world _ _
  | tick actor generation now => exact tick world actor generation
  | tickTogether now => exact tickTogether world
  | sweep now => exact sweep world

end SameRun

end World

end SpriteStage
