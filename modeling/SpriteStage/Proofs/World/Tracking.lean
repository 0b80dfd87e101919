import SpriteStage.Proofs.Walk.Soundness
import SpriteStage.Proofs.World.Soundness

namespace SpriteStage

/-!
# Runs that keep track of the programs

A world is coherent when it is sound and the entries of its run, if there is
one, fit its programs.  Every allowed operation keeps a world coherent, so the
entries fit in every world that a history reaches.  Two things follow for
each of these worlds: no walk of a tick meets a count out of its range, and
whatever operation comes next, the blocks that it brings to an actor are not
done there.
-/

namespace World

/-- A sound world whose run keeps track of its programs. -/
structure Coherent (world : World) : Prop extends world.Sound where
  tracked : forall run, world.run = some run -> run.progress.Fits world.programs

theorem Created.coherent {world : World} (created : Created world) : world.Coherent where
  toSound := created.sound
  tracked := by
    intro run active
    cases created with
    | populated actors settings entropy _ distinct accepted =>
      unfold World.populated at accepted
      split at accepted
      · cases accepted
      · cases accepted
        cases active
    | standard first second settings entropy different => cases active

namespace Coherent

variable {world after : World} {actor : ActorId} {now : Instant}

theorem congr (coherent : world.Coherent) (sound : after.Sound)
    (samePrograms : after.programs = world.programs) (sameRun : after.run = world.run) :
    after.Coherent where
  toSound := sound
  tracked := by
    rw [sameRun, samePrograms]
    exact coherent.tracked

/-! ## Edits -/

theorem spawn {next : World} {fresh : ActorId} (coherent : world.Coherent)
    (new : fresh ∉ world.cast.ids) (spawned : world.spawn fresh = .ok next) : next.Coherent := by
  have sound := coherent.toSound.spawn new spawned
  rcases spawn_eq_ok spawned with ⟨cast, _, rfl⟩
  exact coherent.congr sound rfl rfl

theorem dismiss (coherent : world.Coherent) (actor : ActorId) :
    (world.dismiss actor).world.Coherent where
  toSound := coherent.toSound.dismiss actor
  tracked := by
    rcases world.dismiss_cases actor with same | ⟨removed, cast, _, same⟩
    · rw [same]
      exact coherent.tracked
    · rw [same]
      intro run active
      rcases Option.map_eq_some_iff.1 active with ⟨earlier, earlierActive, rfl⟩
      exact (coherent.tracked earlier earlierActive).erase actor

theorem insert (coherent : world.Coherent) {node : Block} (distinct : node.ids.Nodup)
    (nested : Forest.Nested [node]) (parent : Option BlockId) (actor : ActorId) :
    (world.insert node parent actor).world.Coherent where
  toSound := coherent.toSound.insert distinct nested parent actor
  tracked := by
    rcases world.insert_cases node parent actor with same | ⟨programs, _, inserted, same⟩
    · rw [same]
      exact coherent.tracked
    · rw [same]
      intro run active
      exact (coherent.tracked run active).insert coherent.programs inserted

theorem remove (coherent : world.Coherent) (id : BlockId) : (world.remove id).world.Coherent where
  toSound := coherent.toSound.remove id
  tracked := by
    rcases world.remove_cases coherent.programs id with same | ⟨owner, node, found, same⟩
    · rw [same]
      exact coherent.tracked
    · rw [same]
      intro run active
      rcases Option.map_eq_some_iff.1 active with ⟨earlier, earlierActive, rfl⟩
      exact (coherent.tracked earlier earlierActive).prune coherent.programs found

/-- Within one program a block keeps its entries; in another it has none. -/
theorem move (coherent : world.Coherent) (id : BlockId) (actor : ActorId)
    (parent : Option BlockId) : (world.move id actor parent).world.Coherent where
  toSound := coherent.toSound.move id actor parent
  tracked := by
    rcases world.move_cases coherent.programs id actor parent with
      same | ⟨owner, node, _, found, inserted, same⟩
    · rw [same]
      exact coherent.tracked
    · rw [same]
      intro run active
      by_cases within : owner = actor
      · rw [within] at found inserted ⊢
        rw [if_pos within] at active
        have admitted := (Programs.insert_eq_ok_iff.1 inserted).2.1
        exact (coherent.tracked run active).move_within coherent.programs found admitted
      · rw [if_neg within] at active
        rcases Option.map_eq_some_iff.1 active with ⟨earlier, earlierActive, rfl⟩
        have left := (coherent.tracked earlier earlierActive).prune coherent.programs found
        exact left.insert (coherent.programs.withPruned found) inserted

theorem adjust (coherent : world.Coherent) (id : BlockId) (name : String) (value : Parameter) :
    (world.adjust id name value).world.Coherent where
  toSound := coherent.toSound.adjust id name value
  tracked := by
    rcases world.adjust_cases id name value with same | ⟨programs, adjusted, same⟩
    · rw [same]
      exact coherent.tracked
    · rw [same]
      intro run active
      exact (coherent.tracked run active).adjust coherent.programs adjusted

/-! ## Runs -/

theorem start (coherent : world.Coherent) : world.start.2.Coherent where
  toSound := coherent.toSound.start
  tracked := by
    unfold World.start
    split
    · exact coherent.tracked
    · intro run active
      cases active
      exact Progress.Fits.start world.programs

theorem step (coherent : world.Coherent) : (world.step actor now).2.Coherent where
  toSound := coherent.toSound.step
  tracked := by
    unfold World.step
    split
    · exact coherent.tracked
    · rename_i earlier earlierActive
      intro run active
      cases active
      exact Walk.stepForest_fits coherent.programs (world.programs.forest actor)
        (List.Subset.refl _) (coherent.programs.distinct actor) _
        (coherent.tracked earlier earlierActive)

theorem collide (coherent : world.Coherent) (pair : ActorPair) :
    (world.collide now pair).2.Coherent where
  toSound := coherent.toSound.collide pair
  tracked := by
    unfold World.collide
    split
    · rename_i earlier first second earlierActive _ _
      intro run active
      cases active
      exact (coherent.tracked earlier earlierActive).exchange coherent.programs pair.first
        pair.second
    · exact coherent.tracked

theorem sweep (coherent : world.Coherent) : (world.sweep now).2.Coherent := by
  unfold World.sweep
  split
  · exact coherent
  · rename_i earlier earlierActive
    apply collect_of_preserved World.Coherent fun pair _ before => before.collide pair
    refine ⟨coherent.toSound.congr rfl rfl, ?_⟩
    intro run active
    cases active
    exact coherent.tracked earlier earlierActive

theorem stepPresent (coherent : world.Coherent) (actor : ActorId) :
    (world.stepPresent now actor).2.Coherent := by
  unfold World.stepPresent
  split
  · exact coherent.step
  · exact coherent

theorem collect_stepPresent (coherent : world.Coherent) (actors : List ActorId) :
    (collect (World.stepPresent now) actors world).2.Coherent :=
  collect_of_preserved World.Coherent (fun actor _ before => before.stepPresent actor) actors
    world coherent

theorem tick (coherent : world.Coherent) (actor : ActorId) (generation : Nat) :
    (world.tick actor generation now).2.Coherent := by
  rcases world.tick_cases actor generation now with same | same | ⟨_, same⟩
  · rw [same]
    exact coherent
  · rw [same]
    exact coherent
  · rw [same]
    exact coherent.step.sweep

theorem tickTogether (coherent : world.Coherent) : (world.tickTogether now).2.Coherent := by
  unfold World.tickTogether
  split
  · exact coherent
  · exact (coherent.collect_stepPresent _).sweep

theorem apply (coherent : world.Coherent) (operation : Operation)
    (allowed : operation.Allowed world) : (operation.apply world).Coherent := by
  cases operation with
  | spawn fresh =>
    rw [Operation.apply]
    split
    · rename_i next spawned
      exact coherent.spawn allowed spawned
    · exact coherent
  | rename actor name =>
    have sound := coherent.toSound.rename actor name
    rw [rename_world] at sound
    rw [Operation.apply, rename_world]
    exact coherent.congr sound rfl rfl
  | place actor x y heading =>
    have sound := coherent.toSound.place actor x y heading
    rw [place_world] at sound
    rw [Operation.apply, place_world]
    exact coherent.congr sound rfl rfl
  | dismiss actor => exact coherent.dismiss actor
  | insert node parent actor => exact coherent.insert allowed.1 allowed.2 parent actor
  | remove block => exact coherent.remove block
  | move block actor parent => exact coherent.move block actor parent
  | adjust block name value => exact coherent.adjust block name value
  | start => exact coherent.start
  | finish =>
    refine ⟨coherent.toSound.congr rfl rfl, ?_⟩
    intro run active
    cases active
  | restore => exact coherent.congr (coherent.toSound.congr rfl (Cast.ids_reset world.cast)) rfl rfl
  | tick actor generation now => exact coherent.tick actor generation
  | tickTogether now => exact coherent.tickTogether
  | sweep now => exact coherent.sweep

theorem after_history (coherent : world.Coherent) (history : List Operation)
    (allowed : world.Allows history) : (world.after history).Coherent :=
  after_of_preserved (fun _ operation allowedNow before => before.apply operation allowedNow)
    history world allowed coherent

/-- In the middle of every tick, the guarded walk gets through the program of
every actor. -/
theorem guarded_walk (coherent : world.Coherent) {run : Run} (active : world.run = some run) :
    Walk.guardedForest actor now (world.programs.forest actor) ⟨world.cast, run.progress, []⟩ =
      some (tickProgram actor now (world.programs.forest actor) world.cast run.progress) :=
  Walk.guardedForest_eq_some coherent.programs _ (List.Subset.refl _)
    (coherent.programs.distinct actor) _ (coherent.tracked run active)

end Coherent

end World

end SpriteStage
