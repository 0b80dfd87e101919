import SpriteStage.Proofs.Actor.Baselines
import SpriteStage.Proofs.Walk.Frame
import SpriteStage.World.Edit
import SpriteStage.World.Run

namespace SpriteStage

/-!
# What runs leave alone

A walk of a program changes poses and speech, but neither who is in the cast
with which baseline, nor any program, nor the debounce set.  What each action of a sequence keeps,
the sequence keeps.
-/

namespace Walk

variable {actor : ActorId} {now : Instant}

theorem baseline_moved (command : Motion) (other : Actor) :
    ((moved command other).id, (moved command other).baseline) = (other.id, other.baseline) := by
  cases command <;> rfl

theorem baselines_look (command : Look) (walk : Walk) :
    (walk.look actor now command).cast.baselines = walk.cast.baselines := by
  rw [look]
  split
  · exact Cast.baselines_modify fun _ => rfl
  · rfl

theorem baselines_stepForest (forest : Forest) (walk : Walk) :
    (stepForest actor now forest walk).cast.baselines = walk.cast.baselines := by
  refine stepForest_of_preserved (fun after => after.cast.baselines = walk.cast.baselines)
    ?_ ?_ ?_ forest walk rfl
  · exact fun _ _ same => same
  · intro middle command same
    rw [← same]
    exact Cast.baselines_modify (baseline_moved command)
  · intro middle command same
    rw [← same]
    exact baselines_look command middle

theorem ids_stepForest (forest : Forest) (walk : Walk) :
    (stepForest actor now forest walk).cast.ids = walk.cast.ids := by
  rw [← Cast.map_fst_baselines, baselines_stepForest, Cast.map_fst_baselines]

end Walk

namespace World

variable {Item : Type} {now : Instant} {actor : ActorId}

/-- What each action of a sequence keeps, the sequence keeps. -/
theorem collect_of_preserved (Invariant : World -> Prop)
    {action : Item -> World -> List Event × World}
    (preserved : forall item world, Invariant world -> Invariant (action item world).2)
    (items : List Item) :
    forall world, Invariant world -> Invariant (collect action items world).2 := by
  induction items with
  | nil => exact fun _ holds => holds
  | cons item rest step =>
    intro world holds
    exact step _ (preserved item world holds)

/-- What is the same before and after most operations: who is there, and the
debounce set of the run. -/
structure SameCompany (before after : World) : Prop where
  ids : after.cast.ids = before.cast.ids
  debounce : after.run.map Run.debounce = before.run.map Run.debounce

theorem step_programs (world : World) : (world.step actor now).2.programs = world.programs := by
  unfold step
  split <;> rfl

theorem step_sameCompany (world : World) : SameCompany world (world.step actor now).2 := by
  unfold step
  split
  · exact ⟨rfl, rfl⟩
  · rename_i run active
    refine ⟨Walk.ids_stepForest _ _, ?_⟩
    rw [active]
    rfl

theorem SameCompany.refl (world : World) : SameCompany world world := ⟨rfl, rfl⟩

theorem SameCompany.trans {before middle after : World} (one : SameCompany before middle)
    (next : SameCompany middle after) : SameCompany before after :=
  ⟨next.ids.trans one.ids, next.debounce.trans one.debounce⟩

theorem sameCompany_collect_stepPresent (world : World) (actors : List ActorId) :
    SameCompany world (collect (stepPresent now) actors world).2 := by
  refine collect_of_preserved (SameCompany world) ?_ actors world (.refl world)
  intro actor middle same
  unfold stepPresent
  split
  · exact same.trans middle.step_sameCompany
  · exact same

theorem collect_stepPresent_programs (world : World) (actors : List ActorId) :
    (collect (stepPresent now) actors world).2.programs = world.programs := by
  refine collect_of_preserved (fun middle => middle.programs = world.programs) ?_ actors world rfl
  intro actor middle same
  unfold stepPresent
  split
  · exact middle.step_programs.trans same
  · exact same

theorem sweep_cast (world : World) : (world.sweep now).2.cast = world.cast := by
  unfold sweep
  split
  · rfl
  · refine collect_of_preserved (fun middle => middle.cast = world.cast) ?_ _ _ rfl
    intro pair middle same
    rw [← same]
    unfold collide
    split <;> rfl

/-- A tick of one actor walks its program and sweeps, or it does nothing. -/
theorem tick_cases (world : World) (actor : ActorId) (generation : Nat) (now : Instant) :
    world.tick actor generation now = (.outdated, world) ∨
      world.tick actor generation now = (.vacant, world) ∨
      (world.cast.contains actor = true ∧ world.tick actor generation now =
        (.acted ((world.step actor now).1 ++ ((world.step actor now).2.sweep now).1),
          ((world.step actor now).2.sweep now).2)) := by
  unfold tick
  split
  · exact Or.inl rfl
  · split
    · split
      · rename_i present
        exact Or.inr (Or.inr ⟨present, rfl⟩)
      · exact Or.inr (Or.inl rfl)
    · exact Or.inl rfl

end World

end SpriteStage
