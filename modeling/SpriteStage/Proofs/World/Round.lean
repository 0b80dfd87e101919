import SpriteStage.Proofs.Walk.Execution
import SpriteStage.Proofs.World.History
import SpriteStage.Proofs.World.Sweep

namespace SpriteStage

/-!
# Rounds

A tick of one actor, a tick of all driven actors and a sweep are of one sort:
some actors walk their programs, each in its turn, and then there is a sweep.
Such a round is determined by who walks and when.  A tick that is outdated or
whose actor is gone makes no round; it changes nothing and announces nothing.

The events of a round are those of its walks, which say what the executed look
commands say, and those of its sweep, which are collisions.
-/

def Tick.events : Tick -> List Event
  | .acted events => events
  | .outdated => []
  | .vacant => []

namespace World

/-- The commands that an actor executes in a walk of its program, with their
blocks. -/
def executedBy (actor : ActorId) (now : Instant) (world : World) : List (BlockId × Action) :=
  match world.run with
  | none => []
  | some run =>
    Walk.executedForest actor now (world.programs.forest actor) ⟨world.cast, run.progress, []⟩

def executedInTurn (now : Instant) : List ActorId -> World -> List (BlockId × Action)
  | [], _ => []
  | actor :: rest, world =>
    world.executedBy actor now ++ executedInTurn now rest (world.step actor now).2

/-- Let some actors walk their programs, each in its turn, and then sweep. -/
def round (walkers : List ActorId) (now : Instant) (world : World) : List Event × World :=
  let (said, walked) := collect (fun actor => step actor now) walkers world
  let (collisions, swept) := walked.sweep now
  (said ++ collisions, swept)

end World

namespace Operation

def isTimed : Operation -> Bool
  | .tick _ _ _ => true
  | .tickTogether _ => true
  | .sweep _ => true
  | _ => false

/-- Who walks in the round that an operation makes, and when, if it makes one. -/
def round? (world : World) : Operation -> Option (List ActorId × Instant)
  | .tick actor generation now =>
    match world.run with
    | none => none
    | some run =>
      if run.generation = generation ∧ world.cast.contains actor = true then some ([actor], now)
      else none
  | .tickTogether now =>
    world.run.map fun run => (run.driven.filter world.cast.contains, now)
  | .sweep now => some ([], now)
  | _ => none

def walkers (world : World) (operation : Operation) : List ActorId :=
  match operation.round? world with
  | some (walkers, _) => walkers
  | none => []

/-- The commands that are executed in an operation, with their blocks. -/
def executed (world : World) (operation : Operation) : List (BlockId × Action) :=
  match operation.round? world with
  | some (walkers, now) => World.executedInTurn now walkers world
  | none => []

def events (world : World) : Operation -> List Event
  | .tick actor generation now => (world.tick actor generation now).1.events
  | .tickTogether now => (world.tickTogether now).1
  | .sweep now => (world.sweep now).1
  | _ => []

end Operation

namespace World

def walkers (world : World) : List Operation -> List ActorId
  | [] => []
  | operation :: rest => operation.walkers world ++ (operation.apply world).walkers rest

def executed (world : World) : List Operation -> List (BlockId × Action)
  | [] => []
  | operation :: rest => operation.executed world ++ (operation.apply world).executed rest

def events (world : World) : List Operation -> List Event
  | [] => []
  | operation :: rest => operation.events world ++ (operation.apply world).events rest

variable {world : World} {actor : ActorId} {now : Instant} {operation : Operation}

/-! ## Histories one after the other -/

theorem after_append (world : World) (first second : List Operation) :
    world.after (first ++ second) = (world.after first).after second :=
  List.foldl_append

theorem allows_append {first second : List Operation} :
    forall {world : World}, world.Allows (first ++ second) <->
      world.Allows first ∧ (world.after first).Allows second := by
  induction first with
  | nil => exact fun {world} => ⟨fun allowed => ⟨trivial, allowed⟩, And.right⟩
  | cons operation rest step =>
    intro world
    exact (and_congr_right' step).trans and_assoc.symm

/-! ## Walks -/

theorem SameCompany.active {before after : World} (same : SameCompany before after) :
    after.run.isSome = before.run.isSome := by
  have isSome := congrArg Option.isSome same.debounce
  rwa [Option.isSome_map, Option.isSome_map] at isSome

theorem SameCompany.contains {before after : World} (same : SameCompany before after) :
    after.cast.contains = before.cast.contains := by
  funext other
  rw [Bool.eq_iff_iff, Cast.contains_iff_mem_ids, Cast.contains_iff_mem_ids, same.ids]

/-- A walk has the effect of the commands that it executes and says what they
say, if there is an actor. -/
theorem step_carries (world : World) (actor : ActorId) (now : Instant) :
    let actions := (world.executedBy actor now).map Prod.snd
    (world.step actor now).2.cast = world.cast.modify actor (Action.effects now actions) ∧
      (world.step actor now).1 =
        if world.cast.contains actor then actions.filterMap (Action.event? actor) else [] := by
  rw [executedBy, step]
  cases world.run with
  | none => exact ⟨(Cast.modify_same world.cast actor).symm, (ite_self []).symm⟩
  | some run =>
    let walk : Walk := ⟨world.cast, run.progress, []⟩
    let program := world.programs.forest actor
    have carried : Walk.Carries actor now
        ((Walk.executedForest actor now program walk).map Prod.snd) walk
        (Walk.stepForest actor now program walk) := Walk.carries_executed program walk
    exact ⟨carried.cast, carried.events⟩

theorem collect_cons {Item : Type} (action : Item -> World -> List Event × World) (item : Item)
    (rest : List Item) (world : World) :
    collect action (item :: rest) world =
      ((action item world).1 ++ (collect action rest (action item world).2).1,
        (collect action rest (action item world).2).2) := rfl

theorem collect_singleton {Item : Type} (action : Item -> World -> List Event × World)
    (item : Item) (world : World) : collect action [item] world = action item world :=
  Prod.ext (List.append_nil _) rfl

/-- An actor that is gone does not walk, so only those that are there have a
turn. -/
theorem collect_stepPresent_eq (actors : List ActorId) :
    forall world : World, collect (stepPresent now) actors world =
      collect (fun actor => step actor now) (actors.filter world.cast.contains) world := by
  induction actors with
  | nil => exact fun _ => rfl
  | cons actor rest step =>
    intro world
    by_cases present : world.cast.contains actor = true
    · have same : (world.step actor now).2.cast.contains = world.cast.contains :=
        world.step_sameCompany.contains
      rw [List.filter_cons_of_pos present, ← same, collect_cons, collect_cons, stepPresent,
        if_pos present, step]
    · rw [List.filter_cons_of_neg present, collect_cons, stepPresent, if_neg present, step]
      rfl

/-! ## Timed operations -/

end World

namespace Operation

variable {world : World} {operation : Operation}

theorem round?_of_untimed (untimed : ¬ operation.isTimed = true) :
    operation.round? world = none := by
  cases operation <;> first | rfl | exact absurd rfl untimed

theorem events_of_untimed (untimed : ¬ operation.isTimed = true) :
    operation.events world = [] := by
  cases operation <;> first | rfl | exact absurd rfl untimed

/-- A timed operation makes a round, or it does nothing. -/
theorem timed_cases (timed : operation.isTimed = true) :
    (operation.round? world = none ∧ operation.apply world = world ∧
        operation.events world = []) ∨
      Exists fun walkers => Exists fun now => operation.round? world = some (walkers, now) ∧
        operation.apply world = (world.round walkers now).2 ∧
        operation.events world = (world.round walkers now).1 := by
  cases operation with
  | tick actor generation now =>
    rw [round?, apply, events, World.tick]
    cases world.run with
    | none => exact Or.inl ⟨rfl, rfl, rfl⟩
    | some run =>
      dsimp only
      by_cases current : run.generation = generation
      · by_cases present : world.cast.contains actor = true
        · rw [if_pos ⟨current, present⟩, if_pos current, if_pos present]
          refine Or.inr ⟨[actor], now, rfl, ?_⟩
          rw [World.round, World.collect_singleton]
          exact ⟨rfl, rfl⟩
        · rw [if_neg fun both => present both.2, if_pos current, if_neg present]
          exact Or.inl ⟨rfl, rfl, rfl⟩
      · rw [if_neg fun both => current both.1, if_neg current]
        exact Or.inl ⟨rfl, rfl, rfl⟩
  | tickTogether now =>
    rw [round?, apply, events, World.tickTogether]
    cases world.run with
    | none => exact Or.inl ⟨rfl, rfl, rfl⟩
    | some run =>
      dsimp only
      rw [World.collect_stepPresent_eq]
      exact Or.inr ⟨_, _, rfl, rfl, rfl⟩
  | sweep now => exact Or.inr ⟨[], now, rfl, rfl, rfl⟩
  | _ => cases timed

end Operation

section Sample

/-- Two actors, so far apart that they never overlap. -/
def World.sampleApart : World :=
  World.ofActors
    [Actor.create ⟨Uuid.ofNat 1⟩ "Near" (Pose.facing 0.0 0.0 90.0) "#FF5722",
      Actor.create ⟨Uuid.ofNat 2⟩ "Far" (Pose.facing (1.0 / 0.0) 0.0 90.0) "#2196F3"]
    Settings.standard 0

theorem World.sampleApart_created : Created sampleApart := by
  have distinct : sampleApart.cast.ids.Nodup := by decide
  exact .populated sampleApart.cast.actors Settings.standard 0 _ distinct rfl

def World.sampleWord (number : Nat) (message : String) : Block :=
  ⟨⟨Uuid.ofNat number⟩, .look (.say message), .nobody, none, []⟩

theorem World.sampleWord_allowed (number : Nat) (message : String) :
    (sampleWord number message).ids.Nodup ∧ Forest.Nested [sampleWord number message] := by
  refine ⟨List.nodup_singleton _, ?_⟩
  simp [sampleWord, Forest.nested_cons, Forest.nested_nil]

end Sample

end SpriteStage
