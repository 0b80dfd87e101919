import SpriteStage.Proofs.World.Edit
import SpriteStage.Proofs.World.Frame
import SpriteStage.Proofs.World.History

namespace SpriteStage

/-!
# Operations and baselines

No operation on a world changes a baseline.  The list of them stays as it is,
or loses the actor that is removed, or is continued with the actor that joins.
-/

namespace World

variable {actor : ActorId} {now : Instant}

theorem Reprogrammed.cast {before after : World} (edit : Reprogrammed before after) :
    after.cast = before.cast := by
  cases edit with
  | edited programs => rfl
  | forgotten programs owner node => rfl

theorem baselines_start (world : World) :
    world.start.2.cast.baselines = world.cast.baselines := by
  unfold start
  split
  · rfl
  · exact Cast.baselines_hush world.cast

theorem baselines_step (world : World) :
    (world.step actor now).2.cast.baselines = world.cast.baselines := by
  unfold step
  split
  · rfl
  · exact Walk.baselines_stepForest _ _

theorem baselines_tick (world : World) (actor : ActorId) (generation : Nat) (now : Instant) :
    (world.tick actor generation now).2.cast.baselines = world.cast.baselines := by
  rcases world.tick_cases actor generation now with same | same | ⟨_, same⟩
  · rw [same]
  · rw [same]
  · rw [same, sweep_cast, baselines_step]

theorem baselines_tickTogether (world : World) :
    (world.tickTogether now).2.cast.baselines = world.cast.baselines := by
  unfold tickTogether
  split
  · rfl
  · dsimp only
    rw [sweep_cast]
    refine collect_of_preserved (fun middle => middle.cast.baselines = world.cast.baselines)
      ?_ _ world rfl
    intro actor middle same
    unfold stepPresent
    split
    · rw [baselines_step, same]
    · exact same

end World

/-- An operation adds nobody to the cast and changes no baseline, or it adds
one actor, which is silent and at its own baseline. -/
theorem Operation.baselines_apply (world : World) (operation : Operation) :
    (operation.apply world).cast.baselines.Sublist world.cast.baselines ∨
      Exists fun created : Actor => operation = .spawn created.id ∧
        created.pose = created.baseline ∧ created.speech = none ∧
        (operation.apply world).cast.actors = world.cast.actors ++ [created] := by
  have kept : forall after : World, after.cast.baselines = world.cast.baselines ->
      after.cast.baselines.Sublist world.cast.baselines := by
    intro after same
    rw [same]
  cases operation with
  | spawn fresh =>
    rw [Operation.apply]
    split
    · rename_i next spawned
      rcases World.spawn_eq_ok spawned with ⟨cast, drawn, rfl⟩
      rcases Cast.spawn_eq_ok drawn with ⟨created, rfl, home, silent, last⟩
      exact Or.inr ⟨created, rfl, home, silent, last⟩
    · exact Or.inl (kept world rfl)
  | rename actor name =>
    rw [Operation.apply, World.rename_world]
    exact Or.inl (kept _ (Cast.baselines_modify fun _ => rfl))
  | place actor x y heading =>
    rw [Operation.apply, World.place_world]
    exact Or.inl (kept _ (Cast.baselines_modify fun _ => rfl))
  | dismiss actor =>
    rw [Operation.apply]
    rcases world.dismiss_cases actor with same | ⟨removed, cast, taken, same⟩
    · rw [same]
      exact Or.inl (kept world rfl)
    · rw [same]
      exact Or.inl (Cast.baselines_remove taken)
  | insert node parent actor =>
    exact Or.inl (kept _ (congrArg _ (world.reprogrammed_insert node parent actor).cast))
  | remove block => exact Or.inl (kept _ (congrArg _ (world.reprogrammed_remove block).cast))
  | move block actor parent =>
    exact Or.inl (kept _ (congrArg _ (world.reprogrammed_move block actor parent).cast))
  | adjust block name value =>
    exact Or.inl (kept _ (congrArg _ (world.reprogrammed_adjust block name value).cast))
  | start => exact Or.inl (kept _ world.baselines_start)
  | finish => exact Or.inl (kept _ rfl)
  | restore => exact Or.inl (kept _ (Cast.baselines_reset world.cast))
  | tick actor generation now => exact Or.inl (kept _ (world.baselines_tick actor generation now))
  | tickTogether now => exact Or.inl (kept _ world.baselines_tickTogether)
  | sweep now => exact Or.inl (kept _ (congrArg Cast.baselines world.sweep_cast))

end SpriteStage
