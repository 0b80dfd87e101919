import SpriteStage.Proofs.Programs.Census
import SpriteStage.Proofs.World.Following
import SpriteStage.Proofs.World.Soundness
import SpriteStage.World.Snapshot

namespace SpriteStage

/-!
# The number of blocks of a world

A world tells how many blocks it has.  Whatever was done to it, that is the
number of identifiers that can be located, the number of blocks that a
snapshot lists, and the number of entries that a run begins with.  It changes
only when blocks arrive with an insertion, or leave with a removal or with
their actor, so it is what arrived less what left.
-/

namespace Operation

def arriving (world : World) : Operation -> Nat
  | .insert node parent actor =>
    match (world.insert node parent actor).outcome with
    | .ok _ => node.count
    | .error _ => 0
  | _ => 0

def leaving (world : World) : Operation -> Nat
  | .remove block =>
    match (world.remove block).outcome with
    | .ok node => node.count
    | .error _ => 0
  | .dismiss actor =>
    match (world.dismiss actor).outcome with
    | .ok _ => Forest.count (world.programs.forest actor)
    | .error _ => 0
  | _ => 0

end Operation

namespace World

def arrived (world : World) : List Operation -> Nat
  | [] => 0
  | operation :: rest => operation.arriving world + (operation.apply world).arrived rest

def departed (world : World) : List Operation -> Nat
  | [] => 0
  | operation :: rest => operation.leaving world + (operation.apply world).departed rest

/-- Whether the number that a world tells is the number of its blocks, in
whichever way they are counted. -/
structure Counted (world : World) : Prop where
  located : Exists fun ids : List BlockId => ids.Nodup ∧
    (forall id, id ∈ ids <-> Exists fun found => world.programs.locate id = some found) ∧
    ids.length = world.blockCount
  listed : (world.snapshot.programs.map fun program => Forest.count program.blocks).sum =
    world.blockCount
  shown : world.snapshot.blockCount = world.blockCount
  tracked : world.run = none -> Exists fun run => world.start.2.run = some run ∧
    run.progress.size = world.start.2.blockCount

variable {world : World}

namespace Sound

theorem counted (sound : world.Sound) : world.Counted where
  located := by
    refine ⟨world.programs.ids, sound.programs.unique, ?_,
      world.programs.blockCount_eq_length_ids.symm⟩
    intro id
    rw [Programs.mem_ids_iff, ← Programs.holds_iff, Programs.holds, Option.isSome_iff_exists]
  listed := by
    have present : forall actor, world.programs.forest actor ≠ [] -> actor ∈ world.cast.ids :=
      fun actor blocks => Cast.contains_iff_mem_ids.1 (sound.registered actor blocks)
    rw [blockCount, sound.programs.blockCount_eq_sum sound.distinct present, snapshot, Cast.ids,
      List.map_map, List.map_map]
    rfl
  shown := rfl
  tracked := by
    intro idle
    rw [World.start, idle]
    exact ⟨_, rfl, sound.programs.size_start⟩

/-! ## Single operations -/

theorem blockCount_dismiss (sound : world.Sound) (actor : ActorId) :
    (world.dismiss actor).world.blockCount + Operation.leaving world (.dismiss actor) =
      world.blockCount := by
  rw [Operation.leaving, World.dismiss]
  cases world.cast.remove actor with
  | error refusal => rfl
  | ok pair => exact sound.programs.blockCount_erase actor

theorem blockCount_insert (sound : world.Sound) (node : Block) (parent : Option BlockId)
    (actor : ActorId) :
    (world.insert node parent actor).world.blockCount =
      world.blockCount + Operation.arriving world (.insert node parent actor) := by
  rw [Operation.arriving, World.insert]
  by_cases present : world.cast.contains actor = true
  · rw [if_pos present]
    cases inserted : world.programs.insert node parent actor with
    | error refusal => rfl
    | ok programs => exact sound.programs.blockCount_insert inserted
  · rw [if_neg present]
    rfl

theorem blockCount_remove (sound : world.Sound) (id : BlockId) :
    (world.remove id).world.blockCount + Operation.leaving world (.remove id) =
      world.blockCount := by
  rw [Operation.leaving, World.remove]
  cases world.programs.owner? id with
  | none => rfl
  | some owner =>
    dsimp only
    cases removed : world.programs.remove id with
    | error refusal => rfl
    | ok pair => exact sound.programs.blockCount_remove removed

theorem blockCount_move (sound : world.Sound) (id : BlockId) (actor : ActorId)
    (parent : Option BlockId) :
    (world.move id actor parent).world.blockCount = world.blockCount := by
  rcases world.move_cases sound.programs id actor parent with
    same | ⟨owner, node, present, found, inserted, same⟩
  · rw [same]
  · have removed := (Programs.remove_eq_ok_iff sound.programs.unique).2 ⟨owner, found, rfl⟩
    rw [same, blockCount, (sound.programs.withPruned found).blockCount_insert inserted]
    exact sound.programs.blockCount_remove removed

theorem blockCount_adjust (sound : world.Sound) (id : BlockId) (name : String)
    (value : Parameter) : (world.adjust id name value).world.blockCount = world.blockCount := by
  rcases world.adjust_cases id name value with same | ⟨programs, adjusted, same⟩
  · rw [same]
  · rw [same]
    exact sound.programs.blockCount_adjust adjusted

/-- Blocks arrive with insertions and leave with removals and actors, and
nothing else changes their number, least of all a refusal. -/
theorem blockCount_apply (sound : world.Sound) (operation : Operation) :
    (operation.apply world).blockCount + operation.leaving world =
      world.blockCount + operation.arriving world := by
  by_cases played : operation.isAuthoring = false
  · have unchanged : (operation.apply world).blockCount = world.blockCount := by
      rw [blockCount, (apply_tells sound.distinct played).programs]
      exact sound.programs.blockCount_exchangeAll _
    rw [unchanged]
    cases operation <;> first | rfl | cases played
  · cases operation with
    | spawn fresh =>
      rw [Operation.apply]
      split
      · rename_i next spawned
        rcases spawn_eq_ok spawned with ⟨cast, _, rfl⟩
        rfl
      · rfl
    | dismiss actor => exact sound.blockCount_dismiss actor
    | insert node parent actor => exact sound.blockCount_insert node parent actor
    | remove block => exact sound.blockCount_remove block
    | move block actor parent => exact sound.blockCount_move block actor parent
    | adjust block name value => exact sound.blockCount_adjust block name value
    | _ => exact absurd rfl played

/-- What there is in the end is what there was and what arrived, less what
left. -/
theorem blockCount_history (history : List Operation) :
    forall {world : World}, world.Sound -> world.Allows history ->
      (world.after history).blockCount + world.departed history =
        world.blockCount + world.arrived history := by
  induction history with
  | nil => exact fun {world} _ _ => rfl
  | cons operation rest step =>
    intro world sound allowed
    have first := sound.blockCount_apply operation
    have later := step (sound.apply operation allowed.1) allowed.2
    change ((operation.apply world).after rest).blockCount +
        (operation.leaving world + (operation.apply world).departed rest) =
      world.blockCount + (operation.arriving world + (operation.apply world).arrived rest)
    omega

end Sound

theorem Created.programs (created : Created world) : world.programs = Programs.empty := by
  cases created with
  | populated actors settings entropy _ distinct accepted =>
    unfold World.populated at accepted
    split at accepted
    · cases accepted
    · cases accepted
      rfl
  | standard first second settings entropy different => rfl

/-- In every world that an allowed history reaches, all counts of the blocks
agree, any operation changes their number by the blocks that arrive and leave
with it, and the number is what arrived in the history less what left.

Arrivals and departures are counted per operation, and an operation that is
refused has none.  The entries of a run are counted right after it has begun,
because later ones need not be there for every block. -/
theorem blocks_are_counted (created : Created world) (history : List Operation)
    (allowed : world.Allows history) :
    let now := world.after history
    now.Counted ∧
      (forall operation : Operation,
        (operation.apply now).blockCount + operation.leaving now =
          now.blockCount + operation.arriving now) ∧
      now.blockCount + world.departed history = world.arrived history := by
  intro now
  have sound : now.Sound := created.sound.after_history history allowed
  have bare : world.blockCount = 0 := by
    rw [blockCount, created.programs]
    rfl
  have balance := created.sound.blockCount_history history allowed
  rw [bare, Nat.zero_add] at balance
  exact ⟨sound.counted, sound.blockCount_apply, balance⟩

section Sample

/-- Three blocks come, of which one is moved to another actor and leaves with
it, and one is removed.  An insertion of a tree that is there is refused. -/
def sampleTraffic : List Operation :=
  [.insert sampleTree none ⟨Uuid.ofNat 1⟩,
    .insert ⟨⟨Uuid.ofNat 4⟩, .motion (.turn 15.0), .nobody, none, []⟩ (some ⟨Uuid.ofNat 1⟩)
      ⟨Uuid.ofNat 1⟩,
    .insert sampleTree none ⟨Uuid.ofNat 2⟩, .move ⟨Uuid.ofNat 4⟩ ⟨Uuid.ofNat 2⟩ none,
    .remove ⟨Uuid.ofNat 2⟩, .dismiss ⟨Uuid.ofNat 2⟩]

theorem sampleTraffic_counted :
    let world := standard ⟨Uuid.ofNat 1⟩ ⟨Uuid.ofNat 2⟩ Settings.standard 0
    Created world ∧ world.Allows sampleTraffic ∧ (world.after sampleTraffic).Counted ∧
      (world.after sampleTraffic).blockCount + world.departed sampleTraffic =
        world.arrived sampleTraffic ∧
      (world.after sampleTraffic).blockCount = 1 ∧ world.departed sampleTraffic = 2 ∧
      (world.after sampleTraffic).run = none := by
  intro world
  have created : Created world := .standard _ _ _ _ (by decide)
  have leafNested : Forest.Nested [⟨⟨Uuid.ofNat 4⟩, .motion (.turn 15.0), .nobody, none, []⟩] := by
    simp [Forest.nested_cons, Forest.nested_nil]
  have allowed : world.Allows sampleTraffic :=
    ⟨sampleTree_allowed, ⟨List.nodup_singleton _, leafNested⟩, sampleTree_allowed, trivial,
      trivial, trivial, trivial⟩
  have left : (world.after sampleTraffic).blockCount = 1 := by decide +kernel
  have gone : world.departed sampleTraffic = 2 := by decide +kernel
  have idle : (world.after sampleTraffic).run = none :=
    Option.isNone_iff_eq_none.1 (by decide +kernel)
  rcases blocks_are_counted created sampleTraffic allowed with ⟨counted, _, balance⟩
  exact ⟨created, allowed, counted, balance, left, gone, idle⟩

end Sample

end World

end SpriteStage
