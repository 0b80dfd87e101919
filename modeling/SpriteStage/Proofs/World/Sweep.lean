import SpriteStage.Proofs.Overlap
import SpriteStage.Proofs.Programs.Exchange
import SpriteStage.Proofs.World.Frame

namespace SpriteStage

/-!
# What a sweep does

A sweep announces one collision for each pair that the debounce set lets out,
in order, and for each of them the two programs are exchanged.  The cast stays
as it is, and after the sweep the debounce set holds the pairs that overlap.
The walks before a sweep announce no collisions.
-/

def Event.collided? : Event -> Option ActorPair
  | .collision event => some ⟨event.first, event.second⟩
  | _ => none

/-- The pairs whose collisions are among some events, in order. -/
def collidedPairs (events : List Event) : List ActorPair := events.filterMap Event.collided?

theorem collidedPairs_append (first second : List Event) :
    collidedPairs (first ++ second) = collidedPairs first ++ collidedPairs second :=
  List.filterMap_append

namespace World

variable {now : Instant} {actor : ActorId}

/-- What comes of the collisions of some pairs, from one world to another. -/
structure Collided (pairs : List ActorPair) (before : World) (events : List Event)
    (after : World) : Prop where
  announced : collidedPairs events = pairs
  cast : after.cast = before.cast
  radius : after.radius = before.radius
  debounce : after.run.map Run.debounce = before.run.map Run.debounce
  programs : after.programs = before.programs.exchangeAll pairs

theorem collided_nil (world : World) : Collided [] world [] world := ⟨rfl, rfl, rfl, rfl, rfl⟩

theorem Collided.append {first second : List ActorPair} {before middle after : World}
    {early late : List Event} (one : Collided first before early middle)
    (next : Collided second middle late after) :
    Collided (first ++ second) before (early ++ late) after where
  announced := by
    rw [collidedPairs_append, one.announced, next.announced]
  cast := next.cast.trans one.cast
  radius := next.radius.trans one.radius
  debounce := next.debounce.trans one.debounce
  programs := by
    rw [next.programs, one.programs, Programs.exchangeAll_append]

theorem collide_collided {world : World} {run : Run} {pair : ActorPair}
    (active : world.run = some run) (hasFirst : world.cast.contains pair.first = true)
    (hasSecond : world.cast.contains pair.second = true) :
    Collided [pair] world (world.collide now pair).1 (world.collide now pair).2 := by
  rcases Cast.exists_get?_of_contains hasFirst with ⟨first, firstFound⟩
  rcases Cast.exists_get?_of_contains hasSecond with ⟨second, secondFound⟩
  unfold collide
  rw [active, firstFound, secondFound]
  refine ⟨rfl, rfl, rfl, ?_, rfl⟩
  rw [active]
  rfl

theorem collect_collide_collided (pairs : List ActorPair) :
    forall world : World, world.run.isSome = true ->
      (forall pair, pair ∈ pairs -> world.cast.contains pair.first = true ∧
        world.cast.contains pair.second = true) ->
      Collided pairs world (collect (collide now) pairs world).1
        (collect (collide now) pairs world).2 := by
  induction pairs with
  | nil => exact fun world _ _ => collided_nil world
  | cons pair rest step =>
    intro world active there
    rcases Option.isSome_iff_exists.1 active with ⟨run, runIs⟩
    have own := there pair List.mem_cons_self
    have first : Collided [pair] world (world.collide now pair).1 (world.collide now pair).2 :=
      collide_collided runIs own.1 own.2
    have stillActive : (world.collide now pair).2.run.isSome = true := by
      have kept := congrArg Option.isSome first.debounce
      rwa [Option.isSome_map, Option.isSome_map, active] at kept
    have later := step (world.collide now pair).2 stillActive (by
      intro other member
      rw [first.cast]
      exact there other (List.mem_cons_of_mem _ member))
    exact first.append later

/-- The pairs of distinct actors of a world that overlap, each with the lower
identifier first. -/
def Overlapping (world : World) : ActorPair -> Prop :=
  OverlapAmong world.radius world.cast.actors

theorem Overlapping.present {world : World} {pair : ActorPair} (overlap : world.Overlapping pair) :
    pair.first ∈ world.cast.ids ∧ pair.second ∈ world.cast.ids := by
  rcases overlap with ⟨_, one, other, oneMember, otherMember, isFirst, isSecond, _⟩
  rw [← isFirst, ← isSecond]
  exact ⟨List.mem_map_of_mem oneMember, List.mem_map_of_mem otherMember⟩

theorem overlapping_congr {world other : World} (sameCast : other.cast = world.cast)
    (sameRadius : other.radius = world.radius) : other.Overlapping = world.Overlapping := by
  unfold Overlapping
  rw [sameCast, sameRadius]

/-- A sweep lets the pairs collide that overlap and were not held, and holds
those that overlap. -/
theorem sweep_collided {world : World} {run : Run} (active : world.run = some run)
    (distinct : world.cast.ids.Nodup) :
    Exists fun pairs => Exists fun debounce : Debounce =>
      pairs.Nodup ∧
        (forall pair, pair ∈ pairs <-> world.Overlapping pair ∧ pair ∉ run.debounce.held) ∧
        (run.debounce.held.Nodup -> debounce.held.Nodup) ∧
        (forall pair, pair ∈ debounce.held <-> world.Overlapping pair) ∧
        Collided pairs { world with run := some { run with debounce := debounce } }
          (world.sweep now).1 (world.sweep now).2 := by
  let overlapping := pairsAmong world.radius world.cast.actors
  have once : overlapping.Nodup := nodup_pairsAmong world.radius distinct
  have found : forall pair, pair ∈ overlapping <-> world.Overlapping pair :=
    fun _ => mem_pairsAmong_iff distinct
  have started : forall pair, pair ∈ (run.debounce.refresh overlapping).1 <->
      world.Overlapping pair ∧ pair ∉ run.debounce.held := by
    intro pair
    rw [Debounce.mem_started_iff once, found]
  refine ⟨(run.debounce.refresh overlapping).1, (run.debounce.refresh overlapping).2,
    Debounce.nodup_started once, started, ?_, ?_, ?_⟩
  · exact fun heldOnce => Debounce.nodup_held_refresh heldOnce once
  · intro pair
    rw [Debounce.mem_held_refresh_iff once, found]
  · rw [sweep, active]
    apply collect_collide_collided
    · rfl
    · intro pair member
      rw [Cast.contains_iff_mem_ids, Cast.contains_iff_mem_ids]
      exact ((started pair).1 member).1.present

/-! ## Walks announce no collisions -/

theorem collidedPairs_stepForest (forest : Forest) (walk : Walk) :
    collidedPairs (Walk.stepForest actor now forest walk).events = collidedPairs walk.events := by
  refine Walk.stepForest_of_preserved
    (fun after => collidedPairs after.events = collidedPairs walk.events) ?_ ?_ ?_ forest walk rfl
  · exact fun _ _ same => same
  · exact fun _ _ same => same
  · intro middle command same
    rw [← same, Walk.look]
    split
    · exact (collidedPairs_append middle.events _).trans (List.append_nil _)
    · rfl

theorem collidedPairs_step (world : World) :
    collidedPairs (world.step actor now).1 = [] := by
  unfold step
  split
  · rfl
  · exact collidedPairs_stepForest _ _

theorem collidedPairs_collect_stepPresent (actors : List ActorId) :
    forall world : World, collidedPairs (collect (stepPresent now) actors world).1 = [] := by
  induction actors with
  | nil => exact fun _ => rfl
  | cons actor rest step =>
    intro world
    have own : collidedPairs (world.stepPresent now actor).1 = [] := by
      unfold stepPresent
      split
      · exact world.collidedPairs_step
      · rfl
    rw [collect, collidedPairs_append, own, step]
    rfl

end World

end SpriteStage
