import SpriteStage.Proofs.Scene.Placement
import SpriteStage.Proofs.World.Soundness

namespace SpriteStage

/-!
# Building a scene

A scene can be built just when it has no misfit.  The world is then what the
scene describes: its actors in order, at their places and silent, each with
its program, and nothing else.  A scene that has a misfit is refused at the
first one.
-/

namespace Scene

/-- An actor of the world is what the scene describes, at its index. -/
structure Portrays (world : World) (index : Nat) (spec : SceneActor) (actor : Actor) : Prop where
  name : actor.name = spec.name
  pose : actor.pose = Pose.facing spec.x spec.y spec.heading
  baseline : actor.baseline = Pose.facing spec.x spec.y spec.heading
  silent : actor.speech = none
  chosen : forall color, spec.color = some color -> actor.color = color
  dealt : spec.color = none -> palette[index % 10]? = some actor.color
  program : Forest.bare (world.programs.forest actor.id) = spec.program

/-- The world is what the scene describes. -/
structure Built (scene : Scene) (supply : IdSupply) (world : World) : Prop where
  idle : world.run = none
  size : world.cast.actors.length = scene.actors.length
  actors : forall index spec, scene.actors[index]? = some spec ->
    Exists fun actor => world.cast.actors[index]? = some actor ∧
      actor.id = supply.actor index ∧ Portrays world index spec actor
  sound : world.Sound
  count : world.blockCount = scene.nodes.length

/-- The programs of actors, numbered from an index, have been placed, and
nothing else has changed. -/
structure Programmed (supply : IdSupply) (index : Nat) (actors : List SceneActor)
    (before after : Placement) : Prop where
  orderly : after.Orderly supply
  kept : after.world = { before.world with programs := after.world.programs }
  placed : after.placed =
    before.placed + (actors.flatMap fun actor => SceneBlock.nodesAll actor.program).length
  programs : forall offset spec, actors[offset]? = some spec ->
    Forest.bare (after.world.programs.forest (supply.actor (index + offset))) = spec.program
  others : forall other, other ∉ (List.range' index actors.length).map supply.actor ->
    after.world.programs.forest other = before.world.programs.forest other

variable {supply : IdSupply} {before middle after : Placement} {index : Nat} {actor : SceneActor}
  {rest : List SceneActor}

/-! ## Actors -/

theorem length_actorsFrom (supply : IdSupply) (actors : List SceneActor) : forall index : Nat,
    (actorsFrom supply index actors).length = actors.length := by
  induction actors with
  | nil => exact fun _ => rfl
  | cons actor rest step =>
    intro index
    rw [actorsFrom, List.length_cons, step, List.length_cons]

theorem getElem?_actorsFrom (supply : IdSupply) (actors : List SceneActor) :
    forall index offset : Nat, (actorsFrom supply index actors)[offset]? =
      actors[offset]?.map (actorOf supply (index + offset)) := by
  induction actors with
  | nil => exact fun _ _ => rfl
  | cons actor rest step =>
    intro index offset
    cases offset with
    | zero => rfl
    | succ offset =>
      rw [actorsFrom, List.getElem?_cons_succ, List.getElem?_cons_succ, step, Nat.add_right_comm,
        Nat.add_assoc]

theorem ids_actorsFrom (supply : IdSupply) (actors : List SceneActor) : forall index : Nat,
    (actorsFrom supply index actors).map Actor.id =
      (List.range' index actors.length).map supply.actor := by
  induction actors with
  | nil => exact fun _ => rfl
  | cons actor rest step =>
    intro index
    rw [actorsFrom, List.map_cons, step, List.length_cons, List.range'_succ, List.map_cons]
    rfl

/-- The palette deals out one of its colours at every index. -/
theorem palette_at (index : Nat) : palette[index % 10]? = some (paletteColor index) := by
  have inside : index % palette.length < palette.length := Nat.mod_lt _ (by decide)
  have there : palette[index % palette.length]? = some palette[index % palette.length] :=
    List.getElem?_eq_getElem inside
  rw [paletteColor, there]
  exact there

/-- What an actor is when only its program is missing. -/
theorem portrays_actorOf {world : World} {id : ActorId} (own : supply.actor index = id)
    (program : Forest.bare (world.programs.forest id) = actor.program) :
    Portrays world index actor (actorOf supply index actor) where
  name := rfl
  pose := rfl
  baseline := rfl
  silent := rfl
  chosen := by
    intro color given
    rw [actorOf, Actor.create, given]
    rfl
  dealt := by
    intro missing
    rw [actorOf, Actor.create, missing, palette_at]
    rfl
  program := by
    rw [← program, ← own]
    rfl

/-! ## Programs -/

/-- One actor after the other is given its program. -/
theorem Programmed.cons
    (first : Placement.Places supply (supply.actor index) none actor.program before middle)
    (second : Programmed supply (index + 1) rest middle after)
    (bare : before.world.programs.forest (supply.actor index) = [])
    (distinct : ((List.range' index (actor :: rest).length).map supply.actor).Nodup) :
    Programmed supply index (actor :: rest) before after := by
  have count := first.placed
  rcases first with ⟨_, added, addedBare, gains⟩
  rw [List.length_cons, List.range'_succ, List.map_cons, List.nodup_cons] at distinct
  refine ⟨second.orderly, ?_, ?_, ?_, ?_⟩
  · rw [second.kept, gains.kept]
  · rw [second.placed, count, List.flatMap_cons, List.length_append, Nat.add_assoc]
  · intro offset spec there
    cases offset with
    | zero =>
      cases there
      rw [Nat.add_zero, second.others _ distinct.1, gains.grown, bare]
      exact addedBare
    | succ offset =>
      rw [← second.programs offset spec there, Nat.add_right_comm, Nat.add_assoc]
  · intro other absent
    rw [List.length_cons, List.range'_succ, List.map_cons, List.mem_cons, not_or] at absent
    rw [second.others other absent.2, gains.others other absent.1]

/-- The programs of actors that have none are placed, up to the first misfit. -/
theorem placePrograms_ends (supply : IdSupply) (actors : List SceneActor) :
    forall (index : Nat) (before : Placement), before.Orderly supply ->
      (forall id, id ∈ (List.range' index actors.length).map supply.actor ->
        before.world.cast.contains id = true ∧ before.world.programs.forest id = []) ->
      ((List.range' index actors.length).map supply.actor).Nodup ->
      supply.DistinctBlocks (before.placed +
        (actors.flatMap fun actor => SceneBlock.nodesAll actor.program).length) ->
      Placement.Ends supply before.placed
        (actors.flatMap fun actor => SceneBlock.nodesAll actor.program)
        (Programmed supply index actors before) (placePrograms supply index actors before) := by
  induction actors with
  | nil =>
    intro index before orderly _ _ _
    rw [placePrograms]
    exact .well ⟨orderly, rfl, rfl, nofun, fun _ _ => rfl⟩ rfl
  | cons actor rest step =>
    intro index before orderly empty distinctActors distinctBlocks
    have ids : (List.range' index (actor :: rest).length).map supply.actor =
        supply.actor index :: (List.range' (index + 1) rest.length).map supply.actor := by
      rw [List.length_cons, List.range'_succ, List.map_cons]
    have apart := distinctActors
    rw [ids, List.nodup_cons] at apart
    rw [ids] at empty
    rw [List.flatMap_cons, List.length_append] at distinctBlocks
    rcases empty _ List.mem_cons_self with ⟨present, bare⟩
    have first := Placement.placeAll_ends supply (supply.actor index) actor.program none before
      orderly present nofun (distinctBlocks.mono (by omega))
    rw [placePrograms, List.flatMap_cons]
    refine first.append ?_
    intro middle places
    rw [← Nat.add_assoc, ← places.placed] at distinctBlocks
    rw [← places.placed]
    have others : forall id, id ∈ (List.range' (index + 1) rest.length).map supply.actor ->
        middle.world.cast.contains id = true ∧ middle.world.programs.forest id = [] := by
      intro id member
      rcases empty id (List.mem_cons_of_mem _ member) with ⟨there, nothing⟩
      have different : id ≠ supply.actor index := fun same => apart.1 (same ▸ member)
      rcases places with ⟨_, added, _, gains⟩
      exact ⟨gains.present there, (gains.others id different).trans nothing⟩
    refine (step (index + 1) middle places.1 others apart.2 distinctBlocks).imp ?_
    intro last programmed
    exact Programmed.cons places programmed bare distinctActors

/-! ## Scenes -/

variable {scene : Scene} {settings : Settings} {entropy : UInt64}

/-- The programs of a world of the actors of a scene make it what the scene
describes. -/
theorem Programmed.built
    (programmed : Programmed supply 0 scene.actors
      ⟨World.ofActors (actorsFrom supply 0 scene.actors) settings entropy, 0⟩ after)
    (populated : scene.actors ≠ [])
    (distinct : ((List.range scene.actors.length).map supply.actor).Nodup) :
    scene.Built supply after.world := by
  have cast : after.world.cast =
      Cast.ofActors (actorsFrom supply 0 scene.actors) (settings.seed.getD entropy)
        settings.spread := by
    rw [programmed.kept]
    rfl
  have ids : after.world.cast.ids = (List.range scene.actors.length).map supply.actor := by
    rw [cast, List.range_eq_range', ← ids_actorsFrom]
    rfl
  refine ⟨?_, ?_, ?_, ⟨programmed.orderly.sound, ?_, ?_, ?_⟩, ?_⟩
  · rw [programmed.kept]
    rfl
  · rw [cast]
    exact length_actorsFrom supply scene.actors 0
  · intro index spec there
    refine ⟨actorOf supply index spec, ?_, rfl, portrays_actorOf rfl ?_⟩
    · have placed := getElem?_actorsFrom supply scene.actors 0 index
      rw [there, Nat.zero_add] at placed
      rw [cast]
      exact placed
    · have program := programmed.programs index spec there
      rw [Nat.zero_add] at program
      exact program
  · intro id blocks
    rw [Cast.contains_iff_mem_ids, ids, List.range_eq_range']
    by_contra absent
    exact blocks (programmed.others id absent)
  · intro nobody
    rw [ids, List.map_eq_nil_iff, List.range_eq_nil, List.length_eq_zero_iff] at nobody
    exact populated nobody
  · rw [ids]
    exact distinct
  · have numbered := programmed.orderly.numbered.length_eq
    have placed := programmed.placed
    rw [List.length_map, List.length_range, placed] at numbered
    rw [World.blockCount, Programs.blockCount_eq_length_ids, numbered]
    exact Nat.zero_add _

/-- Building a scene with an actor places the programs of all of them. -/
theorem build_ends (populated : scene.actors ≠ []) (settings : Settings) (entropy : UInt64)
    (actors : ((List.range scene.actors.length).map supply.actor).Nodup)
    (blocks : supply.DistinctBlocks scene.nodes.length) :
    Exists fun outcome =>
      scene.build settings supply entropy = outcome.map Placement.world ∧
        Placement.Ends supply 0 scene.nodes (fun after => scene.Built supply after.world)
          outcome := by
  let start : Placement := ⟨World.ofActors (actorsFrom supply 0 scene.actors) settings entropy, 0⟩
  have orderly : start.Orderly supply := ⟨Programs.Sound.empty, List.Perm.refl []⟩
  have empty : forall id, id ∈ (List.range' 0 scene.actors.length).map supply.actor ->
      start.world.cast.contains id = true ∧ start.world.programs.forest id = [] := by
    intro id member
    rw [← ids_actorsFrom] at member
    exact ⟨Cast.contains_iff_mem_ids.2 member, rfl⟩
  have blocksToo : supply.DistinctBlocks (start.placed + scene.nodes.length) := by
    rw [Nat.zero_add]
    exact blocks
  have ends := placePrograms_ends supply scene.actors 0 start orderly empty
    (List.range_eq_range' ▸ actors) blocksToo
  refine ⟨placePrograms supply 0 scene.actors start, ?_, ends.imp ?_⟩
  · have someActors : (actorsFrom supply 0 scene.actors).isEmpty = false := by
      rw [List.isEmpty_eq_false_iff, ← List.length_pos_iff, length_actorsFrom, List.length_pos_iff]
      exact populated
    rw [build, if_neg (by rw [List.isEmpty_iff]; exact populated), World.populated, someActors]
    rfl
  · exact fun after programmed => programmed.built populated actors

/-- A scene with an actor can be built just when only blocks of a kind that
holds others have children; otherwise the first block that does not is
refused.  What is built is what the scene describes.

The scene is assumed to have an actor, because one without any stands for the
standard stage, and the identifiers that are handed out are assumed to be
distinct as far as the scene needs them.  Nothing but the nesting is checked:
names and poses may be anything. -/
theorem build_exact (populated : scene.actors ≠ []) (settings : Settings) (entropy : UInt64)
    (actors : ((List.range scene.actors.length).map supply.actor).Nodup)
    (blocks : supply.DistinctBlocks scene.nodes.length) :
    ((Exists fun world => scene.build settings supply entropy = .ok world) <-> scene.Nested) ∧
      (¬ scene.Nested -> Exists fun number =>
        scene.nodes.findIdx? SceneBlock.isMisfit = some number ∧
          scene.build settings supply entropy =
            .error (.program (.noContainer (supply.block number)))) ∧
      forall world, scene.build settings supply entropy = .ok world ->
        scene.Built supply world := by
  rcases build_ends populated settings entropy actors blocks with ⟨outcome, building, ends⟩
  rw [building, nested_iff_findIdx?]
  cases ends with
  | well built fitting =>
    refine ⟨iff_of_true ⟨_, rfl⟩ fitting, fun misfit => absurd fitting misfit, ?_⟩
    intro world same
    cases same
    exact built
  | @refused number misfit =>
    rw [misfit, Nat.zero_add]
    refine ⟨iff_of_false nofun nofun, fun _ => ⟨number, rfl, rfl⟩, nofun⟩

section Sample

def sampleScene : Scene :=
  ⟨[⟨"Cat", -60.0, 0.0, 90.0, none,
      [⟨.control (.times 4), [⟨.motion (.move 15.0), []⟩, ⟨.look (.say "word"), []⟩]⟩,
        ⟨.motion (.turn 15.0), []⟩]⟩,
    ⟨"Dog", 60.0, 0.0, 270.0, some "#000000", []⟩]⟩

def sampleSupply : IdSupply :=
  ⟨fun number => ⟨Uuid.ofNat number⟩, fun number => ⟨Uuid.ofNat number⟩⟩

theorem sampleScene_builds :
    sampleScene.actors ≠ [] ∧
      ((List.range sampleScene.actors.length).map sampleSupply.actor).Nodup ∧
      sampleSupply.DistinctBlocks sampleScene.nodes.length ∧
      Exists fun world =>
        sampleScene.build Settings.standard sampleSupply 0 = .ok world ∧
          sampleScene.Built sampleSupply world ∧ world.blockCount = 4 := by
  have populated : sampleScene.actors ≠ [] := nofun
  have actors : ((List.range sampleScene.actors.length).map sampleSupply.actor).Nodup := by decide
  have blocks : sampleSupply.DistinctBlocks sampleScene.nodes.length := by
    rw [IdSupply.DistinctBlocks]
    decide
  have exact := build_exact populated Settings.standard 0 actors blocks
  have nested : sampleScene.Nested := by
    rw [nested_iff_findIdx?]
    decide
  rcases exact.1.2 nested with ⟨world, building⟩
  have built := exact.2.2 world building
  exact ⟨populated, actors, blocks, world, building, built, built.count⟩

end Sample

end Scene

end SpriteStage
