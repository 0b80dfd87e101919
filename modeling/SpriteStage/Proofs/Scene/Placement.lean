import SpriteStage.Proofs.Block.Extension
import SpriteStage.Proofs.Programs.Inventory
import SpriteStage.Proofs.Programs.Relocation
import SpriteStage.Proofs.Scene.Nodes

namespace SpriteStage

/-!
# Placing the blocks of a scene

Blocks are placed one by one, each below one that is there already, and the
programs are searched every time.  What has been placed so far is an orderly
store that ends where the next block belongs.  So the blocks of a sequence
come to the end of their place as one forest, which is the sequence again when
its names are taken away.  The first misfit stops it all.
-/

/-- The identifiers of that many blocks are distinct. -/
def IdSupply.DistinctBlocks (supply : IdSupply) (count : Nat) : Prop :=
  ((List.range count).map supply.block).Nodup

theorem IdSupply.DistinctBlocks.mono {supply : IdSupply} {few many : Nat}
    (distinct : supply.DistinctBlocks many) (fewer : few ≤ many) : supply.DistinctBlocks few :=
  distinct.sublist ((List.range_sublist.2 fewer).map supply.block)

namespace Placement

variable {supply : IdSupply} {actor : ActorId} {parent : Option BlockId} {kind : Kind}
  {before middle after : Placement}

/-- A world under construction has sound programs, and the identifiers of its
blocks are the first ones of the supply. -/
structure Orderly (supply : IdSupply) (placement : Placement) : Prop where
  sound : placement.world.programs.Sound
  numbered : placement.world.programs.ids.Perm ((List.range placement.placed).map supply.block)

/-- A forest has come to the end of a place, and nothing else has changed. -/
structure Gains (actor : ActorId) (parent : Option BlockId) (added : Forest)
    (before after : Placement) : Prop where
  kept : after.world = { before.world with programs := after.world.programs }
  placed : after.placed = before.placed + Forest.count added
  grown : after.world.programs.forest actor =
    Forest.extend parent added (before.world.programs.forest actor)
  others : forall other, other ≠ actor ->
    after.world.programs.forest other = before.world.programs.forest other

/-- The blocks of a sequence have come to the end of a place, in order and with
everything below them. -/
def Places (supply : IdSupply) (actor : ActorId) (parent : Option BlockId)
    (blocks : List SceneBlock) (before after : Placement) : Prop :=
  Orderly supply after ∧
    Exists fun added => Forest.bare added = blocks ∧ Gains actor parent added before after

/-- How the placement of blocks ends, the first of which is given a certain
number: well if there is no misfit, and else at the first one. -/
inductive Ends (supply : IdSupply) (start : Nat) (blocks : List SceneBlock)
    (Done : Placement -> Prop) : Except Refusal Placement -> Prop
  | well {after : Placement} (done : Done after)
      (fitting : blocks.findIdx? SceneBlock.isMisfit = none) :
      Ends supply start blocks Done (.ok after)
  | refused {number : Nat} (misfit : blocks.findIdx? SceneBlock.isMisfit = some number) :
      Ends supply start blocks Done
        (.error (.program (.noContainer (supply.block (start + number)))))

/-! ## One after the other -/

namespace Gains

variable {added late : Forest}

theorem refl (actor : ActorId) (parent : Option BlockId) (placement : Placement) :
    Gains actor parent [] placement placement where
  kept := rfl
  placed := rfl
  grown := (Forest.extend_nil ..).symm
  others := fun _ _ => rfl

theorem trans (first : Gains actor parent added before middle)
    (second : Gains actor parent late middle after) :
    Gains actor parent (added ++ late) before after where
  kept := by
    rw [second.kept, first.kept]
  placed := by
    rw [second.placed, first.placed, Forest.count_append, Nat.add_assoc]
  grown := by
    rw [second.grown, first.grown, Forest.extend_extend]
  others := by
    intro other different
    rw [second.others other different, first.others other different]

/-- What comes below a block that has just been placed came with it. -/
theorem below {id : BlockId}
    (first : Gains actor parent [⟨id, kind, actor, parent, []⟩] before middle)
    (second : Gains actor (some id) added middle after)
    (new : id ∉ Forest.ids (before.world.programs.forest actor)) :
    Gains actor parent [⟨id, kind, actor, parent, added⟩] before after where
  kept := by
    rw [second.kept, first.kept]
  placed := by
    rw [second.placed, first.placed, Nat.add_assoc, Nat.add_comm _ (Forest.count added)]
    simp only [Forest.count, Block.count]
    omega
  grown := by
    have own : Block.id ⟨id, kind, actor, parent, []⟩ = id := rfl
    rw [second.grown, first.grown]
    exact Forest.extend_below own new parent
  others := by
    intro other different
    rw [second.others other different, first.others other different]

theorem present (gains : Gains actor parent added before after) {other : ActorId}
    (there : before.world.cast.contains other = true) :
    after.world.cast.contains other = true := by
  rw [gains.kept]
  exact there

/-- A place that has gained some blocks admits more. -/
theorem admits (gains : Gains actor parent added before after)
    (admitted : before.world.programs.Admits parent actor) :
    after.world.programs.Admits parent actor := by
  intro above destination
  rcases admitted above destination with ⟨target, found, holds⟩
  refine ⟨target.adoptAll added, ?_, holds⟩
  rw [gains.grown, destination, Forest.extend, Forest.find?_revise (Block.id_adoptAll added),
    found]
  rfl

end Gains

theorem Places.placed {blocks : List SceneBlock}
    (places : Places supply actor parent blocks before after) :
    after.placed = before.placed + (SceneBlock.nodesAll blocks).length := by
  rcases places with ⟨_, added, bare, gains⟩
  rw [gains.placed, ← bare, Forest.length_nodesAll_bare]

namespace Ends

variable {start : Nat} {blocks later : List SceneBlock} {Done Finished : Placement -> Prop}
  {outcome : Except Refusal Placement}

theorem imp (ends : Ends supply start blocks Done outcome)
    (weaker : forall after, Done after -> Finished after) :
    Ends supply start blocks Finished outcome := by
  cases ends with
  | well done fitting => exact .well (weaker _ done) fitting
  | refused misfit => exact .refused misfit

/-- A block that fits is counted. -/
theorem cons {block : SceneBlock} (ends : Ends supply (start + 1) blocks Done outcome)
    (fits : block.isMisfit = false) : Ends supply start (block :: blocks) Done outcome := by
  cases ends with
  | well done fitting =>
    refine .well done ?_
    rw [List.findIdx?_cons, fits, fitting]
    rfl
  | @refused number misfit =>
    rw [Nat.add_assoc, Nat.add_comm 1]
    refine .refused ?_
    rw [List.findIdx?_cons, fits, misfit]
    rfl

/-- A misfit is refused at its own number, wherever the counting began. -/
theorem append {next : Placement -> Except Refusal Placement} :
    Ends supply start blocks Done outcome ->
      (forall after, Done after ->
        Ends supply (start + blocks.length) later Finished (next after)) ->
      Ends supply start (blocks ++ later) Finished
        (match outcome with
        | .error refusal => .error refusal
        | .ok after => next after) := by
  intro ends rest
  cases ends with
  | @well after done fitting =>
    have second := rest after done
    dsimp only
    generalize next after = result at second
    cases second with
    | well finished alsoFitting =>
      refine .well finished ?_
      rw [List.findIdx?_append, fitting, alsoFitting]
      rfl
    | @refused number misfit =>
      rw [Nat.add_assoc, Nat.add_comm blocks.length]
      refine .refused ?_
      rw [List.findIdx?_append, fitting, misfit]
      rfl
  | refused misfit =>
    refine .refused ?_
    rw [List.findIdx?_append, misfit, Option.some_or]

end Ends

/-! ## One block -/

namespace Orderly

/-- The next identifier is that of no block yet. -/
theorem new (orderly : Orderly supply before)
    (distinct : supply.DistinctBlocks (before.placed + 1)) :
    supply.block before.placed ∉ before.world.programs.ids := by
  rw [IdSupply.DistinctBlocks, List.range_succ, List.map_append, List.nodup_append] at distinct
  intro taken
  exact distinct.2.2 _ (orderly.numbered.mem_iff.1 taken) _ (List.mem_singleton.2 rfl) rfl

/-- A block without children comes to the end of a place that admits it. -/
theorem arrives (orderly : Orderly supply before)
    (present : before.world.cast.contains actor = true)
    (admitted : before.world.programs.Admits parent actor)
    (distinct : supply.DistinctBlocks (before.placed + 1)) (kind : Kind) :
    let id := supply.block before.placed
    Exists fun world =>
      before.world.insert (Block.unplaced id kind) parent actor = ⟨world, .ok id⟩ ∧
        Gains actor parent [⟨id, kind, actor, parent, []⟩] before ⟨world, before.placed + 1⟩ ∧
        Forest.find? id (world.programs.forest actor) = some ⟨id, kind, actor, parent, []⟩ ∧
        Orderly supply ⟨world, before.placed + 1⟩ := by
  intro id
  have new : forall other, id ∉ Forest.ids (before.world.programs.forest other) := by
    intro other member
    exact orderly.new distinct (Programs.mem_ids_iff.2 ⟨other, member⟩)
  let next := before.world.programs.withForest actor (Forest.extend parent
    [⟨id, kind, actor, parent, []⟩] (before.world.programs.forest actor))
  have inserted : before.world.programs.insert (Block.unplaced id kind) parent actor =
      .ok next := by
    refine Programs.insert_eq_ok_iff.2 ⟨?_, admitted, ?_⟩
    · intro own member
      rw [List.mem_singleton.1 member]
      exact new
    · rw [orderly.sound.grown_eq_extend]
      rfl
  refine ⟨{ before.world with programs := next }, ?_, ?_, ?_, ?_⟩
  · rw [World.insert, if_pos present, inserted]
    rfl
  · refine ⟨rfl, rfl, Programs.forest_withForest_self .., ?_⟩
    intro other different
    rw [Programs.forest_withForest, if_neg different]
  · have absent : (Block.unplaced id kind).id ∉
        Forest.ids (before.world.programs.forest actor) := new actor
    have found := orderly.sound.find?_grown admitted absent
    rw [orderly.sound.grown_eq_extend] at found
    rw [Programs.forest_withForest_self]
    exact found
  · have single : (Block.unplaced id kind).ids.Nodup := List.nodup_singleton id
    have leaf : Forest.Nested [Block.unplaced id kind] :=
      Forest.nested_cons.2 ⟨fun some => absurd rfl some, Forest.nested_nil, Forest.nested_nil⟩
    refine ⟨orderly.sound.insert single leaf inserted, ?_⟩
    rw [List.range_succ, List.map_append]
    exact (orderly.sound.ids_insert inserted).trans (orderly.numbered.append_right [id])

/-- Below a block that holds none, the next block is refused. -/
theorem refuses {above : BlockId} {target : Block} (orderly : Orderly supply before)
    (present : before.world.cast.contains actor = true)
    (distinct : supply.DistinctBlocks (before.placed + 1)) (kind : Kind)
    (found : Forest.find? above (before.world.programs.forest actor) = some target)
    (plain : target.kind.holdsBlocks = false) :
    (before.world.insert (Block.unplaced (supply.block before.placed) kind) (some above)
      actor).outcome = .error (.program (.noContainer above)) := by
  have unplaced : (Block.unplaced (supply.block before.placed) kind).ids.find?
      before.world.programs.holds = none := by
    rw [List.find?_eq_none]
    intro own member held
    rw [List.mem_singleton.1 member, Programs.holds_iff, ← Programs.mem_ids_iff] at held
    exact orderly.new distinct held
  rw [World.insert, if_pos present, Programs.insert, unplaced]
  dsimp only
  rw [found]
  dsimp only
  rw [plain]
  rfl

end Orderly

/-! ## A program -/

/-- Wherever a place admits them, the blocks of a sequence come to its end, up
to the first misfit among them and below them. -/
def Settles (supply : IdSupply) (actor : ActorId) (blocks : List SceneBlock) : Prop :=
  forall (parent : Option BlockId) (before : Placement), Orderly supply before ->
    before.world.cast.contains actor = true -> before.world.programs.Admits parent actor ->
    supply.DistinctBlocks (before.placed + (SceneBlock.nodesAll blocks).length) ->
    Ends supply before.placed (SceneBlock.nodesAll blocks)
      (Places supply actor parent blocks before) (placeAll supply actor parent blocks before)

/-- A block settles with its children, unless it is the misfit. -/
theorem placeBlock_ends {children : List SceneBlock} (below : Settles supply actor children)
    (orderly : Orderly supply before) (present : before.world.cast.contains actor = true)
    (admitted : before.world.programs.Admits parent actor)
    (distinct : supply.DistinctBlocks
      (before.placed + (SceneBlock.nodes ⟨kind, children⟩).length)) :
    Ends supply before.placed (SceneBlock.nodes ⟨kind, children⟩)
      (Places supply actor parent [⟨kind, children⟩] before)
      (placeBlock supply actor parent ⟨kind, children⟩ before) := by
  rw [SceneBlock.nodes, List.length_cons] at distinct
  rcases orderly.arrives present admitted (distinct.mono (by omega)) kind with
    ⟨world, inserted, arrived, found, arrivedOrderly⟩
  have new := orderly.new (distinct.mono (by omega))
  have stillPresent := arrived.present present
  rw [placeBlock, inserted, SceneBlock.nodes]
  dsimp only
  -- the block itself is always placed; whether it fits shows at its first child
  by_cases holds : kind.holdsBlocks = true
  · have admits : world.programs.Admits (some (supply.block before.placed)) actor := by
      rintro above ⟨⟩
      exact ⟨_, found, holds⟩
    have settled := below _ ⟨world, before.placed + 1⟩ arrivedOrderly stillPresent admits
      (distinct.mono (by dsimp only; omega))
    refine (settled.imp ?_).cons (SceneBlock.isMisfit_eq_false_iff.2 fun _ => holds)
    rintro after ⟨afterOrderly, added, bare, gains⟩
    refine ⟨afterOrderly, _, ?_, arrived.below gains ?_⟩
    · rw [Forest.bare, Block.bare, bare, Forest.bare]
    · exact fun member => new (Programs.mem_ids_iff.2 ⟨actor, member⟩)
  · rw [Bool.not_eq_true] at holds
    cases children with
    | nil => exact .well ⟨arrivedOrderly, _, rfl, arrived⟩ rfl
    | cons child others =>
      rcases child with ⟨inner, deeper⟩
      have misfit : SceneBlock.isMisfit ⟨kind, ⟨inner, deeper⟩ :: others⟩ = true := by
        rw [SceneBlock.isMisfit, holds]
        rfl
      rw [SceneBlock.nodesAll_cons, List.length_cons] at distinct
      have refused := arrivedOrderly.refuses stillPresent (distinct.mono (by dsimp only; omega))
        inner found holds
      have first (later : List SceneBlock) :
          (⟨kind, ⟨inner, deeper⟩ :: others⟩ :: later).findIdx? SceneBlock.isMisfit = some 0 := by
        rw [List.findIdx?_cons, if_pos misfit]
      rw [placeAll, placeBlock, refused]
      exact .refused (first _)

/-- Any blocks settle. -/
theorem placeAll_ends (supply : IdSupply) (actor : ActorId) (blocks : List SceneBlock) :
    Settles supply actor blocks := by
  induction blocks using SceneBlock.induction with
  | nil =>
    intro parent before orderly _ _ _
    rw [placeAll]
    exact .well ⟨orderly, [], rfl, .refl actor parent before⟩ rfl
  | cons kind children rest below after =>
    intro parent before orderly present admitted distinct
    rw [SceneBlock.nodesAll, List.length_append] at distinct
    have first : Ends supply before.placed (SceneBlock.nodes ⟨kind, children⟩)
        (Places supply actor parent [⟨kind, children⟩] before)
        (placeBlock supply actor parent ⟨kind, children⟩ before) :=
      placeBlock_ends below orderly present admitted (distinct.mono (by omega))
    have second : forall middle, Places supply actor parent [⟨kind, children⟩] before middle ->
        Ends supply (before.placed + (SceneBlock.nodes ⟨kind, children⟩).length)
          (SceneBlock.nodesAll rest) (Places supply actor parent (⟨kind, children⟩ :: rest) before)
          (placeAll supply actor parent rest middle) := by
      intro middle places
      have count : before.placed + (SceneBlock.nodes ⟨kind, children⟩).length = middle.placed := by
        rw [places.placed, SceneBlock.nodesAll, SceneBlock.nodesAll, List.append_nil]
      rcases places with ⟨middleOrderly, tree, treeBare, gains⟩
      rw [← Nat.add_assoc, count] at distinct
      rw [count]
      have settled := after parent middle middleOrderly (gains.present present)
        (gains.admits admitted) distinct
      refine settled.imp ?_
      rintro last ⟨lastOrderly, others, othersBare, more⟩
      refine ⟨lastOrderly, tree ++ others, ?_, gains.trans more⟩
      rw [Forest.bare_append, treeBare, othersBare, List.singleton_append]
    rw [placeAll]
    exact first.append second

end Placement

end SpriteStage
