import SpriteStage.Proofs.Drop
import SpriteStage.Proofs.Programs.Relocation
import SpriteStage.Proofs.Stage.Interleaving
import SpriteStage.Proofs.World.Soundness

namespace SpriteStage

/-!
# What a drop does

A drop does one edit or nothing.  It does nothing when its text asks for
nothing, or asks for what cannot be done.  Otherwise a tree comes to the end of
the place that it is dropped on: one that was placed already and is taken out
there, or a new block of the palette by itself.

That nothing else happens is said by taking the tree out again, as for moves
and insertions.  So every other block keeps its kind, its parent and its place
among its siblings.
-/

/-- A block by itself is the only one of its tree. -/
theorem Block.ids_of_bare {node : Block} (bare : node.children = []) : node.ids = [node.id] := by
  rw [ids_eq, bare]
  rfl

namespace Drop

/-- Whether a world can do what a drop asks for. -/
def Admissible (world : World) (actor : ActorId) (parent : Option BlockId) : Drop -> Prop
  | .move id => world.cast.contains actor = true ∧ world.programs.Movable id actor parent
  | .create node => world.cast.contains actor = true ∧ world.programs.holds node.id = false ∧
      world.programs.Admits parent actor

/-- What the edit that a drop asks for does to the programs, and the
identifier of the block that it concerns. -/
inductive Performs (actor : ActorId) (parent : Option BlockId) (before after : Programs) :
    Drop -> BlockId -> Prop
  /-- A tree that is moved keeps everything but its owner and the parent of
  its root, and no block comes or goes. -/
  | move {id : BlockId} {node : Block} {without : Programs}
      (found : before.find? id = some node) (removed : before.remove id = .ok (node, without))
      (lands : Programs.Lands { node.ownedBy actor with parent := parent } actor parent
        without after)
      (count : after.blockCount = before.blockCount) :
      Performs actor parent before after (.move id) id
  /-- A block that is new comes without children, and is one block more. -/
  | create {node : Block} (bare : node.children = [])
      (lands : Programs.Lands { node with actor := actor, parent := parent } actor parent
        before after)
      (count : after.blockCount = before.blockCount + 1) :
      Performs actor parent before after (.create node) node.id

variable {fresh id : BlockId} {text : String} {node : Block} {actor : ActorId}
  {parent : Option BlockId}

/-- A new block is a block by itself. -/
theorem Asks.bare (asks : Asks fresh text (.create node)) : node.children = [] := by
  cases asks with
  | create records placing offered becomes => rfl

end Drop

namespace Programs

variable {store next without after : Programs} {id : BlockId} {node : Block} {actor : ActorId}
  {parent : Option BlockId}

/-- A block by itself can be inserted just when its identifier is not taken and
the place admits it. -/
theorem insert_bare_iff (bare : node.children = []) :
    store.insert node parent actor = .ok next <->
      store.holds node.id = false ∧ store.Admits parent actor ∧
        next = store.withForest actor (store.grown node parent actor) := by
  have free : store.holds node.id = false <->
      forall id, id ∈ node.ids -> forall other, id ∉ Forest.ids (store.forest other) := by
    rw [Block.ids_of_bare bare, Bool.eq_false_iff, ne_eq, holds_iff, not_exists]
    exact (List.forall_mem_singleton (p := fun id => forall other,
      id ∉ Forest.ids (store.forest other))).symm
  rw [insert_eq_ok_iff, free]

/-- What is relocated lands at its destination. -/
theorem Relocates.lands (relocates : Relocates id actor parent node store without after) :
    Lands { node.ownedBy actor with parent := parent } actor parent without after := by
  have own : (node.ownedBy actor).id = id := by
    rcases find?_eq_some_iff.1 relocates.found with ⟨owner, located⟩
    exact (Block.id_ownedBy actor node).trans (Forest.id_of_find? (find?_of_locate located))
  have owned : (node.ownedBy actor).actor = actor := by
    rw [Block.ownedBy_eq]
  exact ⟨owned, rfl, relocates.last, own.symm ▸ relocates.same⟩

/-- A move leaves the number of blocks as it is. -/
theorem Relocates.blockCount (relocates : Relocates id actor parent node store without after)
    (sound : store.Sound) (soundAfter : after.Sound) : after.blockCount = store.blockCount := by
  have added := relocates.lands.blockCount (sound.remove relocates.removed) soundAfter
  have taken := (sound.ids_remove relocates.removed).length_eq
  have same : Block.ids { node.ownedBy actor with parent := parent } = node.ids := by
    rw [Block.ids_eq, Block.ids_eq, Block.ownedBy_eq]
    dsimp only
    rw [Forest.ids_ownedBy]
  rw [added, blockCount_eq_length_ids, blockCount_eq_length_ids, taken, List.length_append, same]

end Programs

namespace World

variable {world : World} {actor : ActorId}

/-- A move is refused when it cannot be done, and otherwise relocates a tree. -/
theorem move_result (sound : world.Sound) (id : BlockId) (actor : ActorId)
    (parent : Option BlockId) :
    let edited := world.move id actor parent
    (¬ Drop.Admissible world actor parent (.move id) ∧
      Exists fun refusal => edited = world.refused refusal) ∨
    (Drop.Admissible world actor parent (.move id) ∧ edited.outcome = .ok () ∧
      edited.world.cast = world.cast ∧ Exists fun node => Exists fun without =>
        Programs.Relocates id actor parent node world.programs without edited.world.programs) := by
  intro edited
  have unfolded : edited = world.move id actor parent := rfl
  unfold World.move at unfolded
  by_cases present : world.cast.contains actor = true
  · rw [if_pos present] at unfolded
    rcases sound.programs.move_outcome id actor parent with
      ⟨movable, node, without, after, moved, relocates⟩ | ⟨refusal, refused, immovable⟩
    · right
      rcases Option.isSome_iff_exists.1 movable.placed with ⟨⟨owner, block⟩, located⟩
      have owned : world.programs.owner? id = some owner := congrArg (Option.map Prod.fst) located
      rw [owned] at unfolded
      dsimp only at unfolded
      rw [moved] at unfolded
      dsimp only at unfolded
      have shape : edited.outcome = .ok () ∧ edited.world.cast = world.cast ∧
          edited.world.programs = after := by
        rw [unfolded]
        split
        · split <;> exact ⟨rfl, rfl, rfl⟩
        · exact ⟨rfl, rfl, rfl⟩
      refine ⟨⟨present, movable⟩, shape.1, shape.2.1, node, without, ?_⟩
      rw [shape.2.2]
      exact relocates
    · left
      refine ⟨fun admissible => immovable.not_movable admissible.2, ?_⟩
      cases owned : world.programs.owner? id with
      | none =>
        rw [owned] at unfolded
        exact ⟨_, unfolded⟩
      | some owner =>
        rw [owned] at unfolded
        dsimp only at unfolded
        rw [refused] at unfolded
        exact ⟨_, unfolded⟩
  · rw [if_neg present] at unfolded
    exact Or.inl ⟨fun admissible => present admissible.1, _, unfolded⟩

/-- An insertion of a block by itself is refused when it cannot be done, and
otherwise changes the programs alone. -/
theorem insert_result {node : Block} (bare : node.children = []) (parent : Option BlockId)
    (actor : ActorId) :
    let edited := world.insert node parent actor
    (¬ Drop.Admissible world actor parent (.create node) ∧
      Exists fun refusal => edited = world.refused refusal) ∨
    (Drop.Admissible world actor parent (.create node) ∧ Exists fun programs =>
      world.programs.insert node parent actor = .ok programs ∧
        edited = ⟨{ world with programs := programs }, .ok node.id⟩) := by
  intro edited
  have unfolded : edited = world.insert node parent actor := rfl
  unfold World.insert at unfolded
  by_cases present : world.cast.contains actor = true
  · rw [if_pos present] at unfolded
    cases inserted : world.programs.insert node parent actor with
    | ok programs =>
      rcases (Programs.insert_bare_iff bare).1 inserted with ⟨free, admitted, _⟩
      rw [inserted] at unfolded
      exact Or.inr ⟨⟨present, free, admitted⟩, programs, rfl, unfolded⟩
    | error refusal =>
      rw [inserted] at unfolded
      refine Or.inl ⟨?_, _, unfolded⟩
      rintro ⟨_, free, admitted⟩
      rw [(Programs.insert_bare_iff bare).2 ⟨free, admitted, rfl⟩] at inserted
      cases inserted
  · rw [if_neg present] at unfolded
    exact Or.inl ⟨fun admissible => present admissible.1, _, unfolded⟩

end World

namespace Stage

variable {stage : Stage} {actor : ActorId} {parent : Option BlockId} {id : BlockId}

/-- An edit changes nothing but the world. -/
theorem edit_eq {Result : Type} (stage : Stage) (edit : World -> Edited Result) :
    stage.edit edit =
      ((edit stage.world).outcome.toOption, stage.withWorld (edit stage.world).world) := rfl

/-- What a drop that is obeyed does to a stage. -/
structure Obeys (actor : ActorId) (parent : Option BlockId) (request : Drop) (before : Stage)
    (id : BlockId) (after : Stage) : Prop where
  performs : request.Performs actor parent before.world.programs after.world.programs id
  sound : after.world.Sound
  cast : after.world.cast = before.world.cast
  /-- Nothing but the world has changed. -/
  rest : after = before.withWorld after.world

/-- A request is obeyed if it is admissible, and otherwise ignored. -/
inductive Answers (actor : ActorId) (parent : Option BlockId) (request : Drop) (before : Stage) :
    Option BlockId × Stage -> Prop
  | ignored (inadmissible : ¬ request.Admissible before.world actor parent) :
      Answers actor parent request before (none, before)
  | obeyed {id : BlockId} {after : Stage}
      (admissible : request.Admissible before.world actor parent)
      (obeys : Obeys actor parent request before id after) :
      Answers actor parent request before (some id, after)

theorem answers_move (sound : stage.world.Sound) (id : BlockId) (actor : ActorId)
    (parent : Option BlockId) :
    Answers actor parent (.move id) stage (stage.move id actor parent) := by
  rw [Stage.move, edit_eq]
  dsimp only
  rcases World.move_result sound id actor parent with
    ⟨inadmissible, refusal, refused⟩ | ⟨admissible, accepted, cast, node, without, relocates⟩
  · rw [refused]
    exact .ignored inadmissible
  · have soundAfter := sound.move id actor parent
    rw [accepted]
    refine .obeyed admissible ⟨?_, soundAfter, cast, rfl⟩
    exact .move relocates.found relocates.removed relocates.lands
      (relocates.blockCount sound.programs soundAfter.programs)

theorem answers_insert (sound : stage.world.Sound) {node : Block} (bare : node.children = [])
    (parent : Option BlockId) (actor : ActorId) :
    Answers actor parent (.create node) stage
      (stage.edit fun world => world.insert node parent actor) := by
  rw [edit_eq]
  rcases World.insert_result bare parent actor with
    ⟨inadmissible, refusal, refused⟩ | ⟨admissible, programs, inserted, accepted⟩
  · rw [refused]
    exact .ignored inadmissible
  · have distinct : node.ids.Nodup := Block.ids_of_bare bare ▸ List.nodup_singleton node.id
    have nested : Forest.Nested [node] := by
      simp [Forest.nested_cons, Forest.nested_nil, bare]
    have soundAfter := sound.insert distinct nested parent actor
    have lands := sound.programs.lands distinct inserted
    have relabelled : node.relabel actor parent =
        { node with actor := actor, parent := parent } := by
      rw [Block.relabel_eq, bare]
      rfl
    rw [accepted] at soundAfter ⊢
    have count := lands.blockCount sound.programs soundAfter.programs
    rw [Forest.ids_relabel_tree, Block.ids_of_bare bare] at count
    rw [relabelled] at lands
    exact .obeyed admissible ⟨.create bare lands count, soundAfter, rfl, rfl⟩

/-- A drop whose text asks for a request answers that request. -/
theorem drop_answers (sound : stage.world.Sound) {fresh : BlockId} {payload : String}
    {request : Drop} (asks : Drop.Asks fresh payload request) (actor : ActorId)
    (parent : Option BlockId) :
    Answers actor parent request stage (stage.drop fresh payload actor parent) := by
  rw [drop, Drop.ofText_eq_ok_iff.2 asks]
  cases request with
  | move id => exact answers_move sound id actor parent
  | create node => exact answers_insert sound asks.bare parent actor

/-- A drop either does the one edit that its text asks for, or nothing.

A new block is described by the palette and by the settings that the record
gives, not by the way in which they are set.  What the text of a record is, is
left to its reader: a text that it does not understand asks for nothing. -/
theorem drop_obeys_or_ignores {stage : Stage} (sound : stage.world.Sound) (fresh : BlockId)
    (payload : String) (actor : ActorId) (parent : Option BlockId) :
    let dropped := stage.drop fresh payload actor parent
    (dropped.1 = none <->
      (forall request, ¬ Drop.Asks fresh payload request) ∨
        Exists fun request => Drop.Asks fresh payload request ∧
          ¬ request.Admissible stage.world actor parent) ∧
    (dropped.1 = none -> dropped.2 = stage) ∧
    forall id, dropped.1 = some id -> Exists fun request =>
      Drop.Asks fresh payload request ∧ request.Admissible stage.world actor parent ∧
        Obeys actor parent request stage id dropped.2 := by
  intro dropped
  cases read : Drop.ofText fresh payload with
  | error refusal =>
    have ignored : dropped = (none, stage) := by
      change stage.drop fresh payload actor parent = _
      rw [drop, read]
    rw [ignored]
    refine ⟨iff_of_true rfl (Or.inl fun _ => Drop.not_asks_of_error read), fun _ => rfl, ?_⟩
    exact fun id same => absurd same (Option.some_ne_none id).symm
  | ok request =>
    have asks := Drop.ofText_eq_ok_iff.1 read
    have answers : Answers actor parent request stage dropped :=
      drop_answers sound asks actor parent
    -- only the answer matters from here on, not how the drop came to it
    clear_value dropped
    cases answers with
    | ignored inadmissible =>
      refine ⟨iff_of_true rfl (Or.inr ⟨request, asks, inadmissible⟩), fun _ => rfl, ?_⟩
      exact fun id same => absurd same (Option.some_ne_none id).symm
    | @obeyed id after admissible obeys =>
      have answered : some id ≠ none := Option.some_ne_none id
      refine ⟨iff_of_false answered ?_, fun same => absurd same answered, ?_⟩
      · rintro (asksNothing | ⟨other, asksToo, inadmissible⟩)
        · exact asksNothing request asks
        · exact inadmissible (asksToo.unique asks ▸ admissible)
      · intro other same
        cases same
        exact ⟨request, asks, admissible, obeys⟩

section Sample

/-- A stage with a repeated word for the first of two actors. -/
def sampleLoopStage : Stage :=
  ofWorld ((World.standard ⟨Uuid.ofNat 1⟩ ⟨Uuid.ofNat 2⟩ Settings.standard 0).after
    [.insert World.sampleTree none ⟨Uuid.ofNat 1⟩]) Settings.standard true fun _ => .epoch

def sampleMoveText : String :=
  "\x7b\"isMoving\": true, \"id\": \"00000000-0000-0000-0000-000000000002\"\x7d"

def sampleNewText : String :=
  "\x7b\"type\": \"look\", \"action\": \"say\", \"params\": \x7b\"message\": \"new\"\x7d\x7d"

/-- The word goes to the other actor, the new one comes into the loop, and a word
cannot hold another one. -/
theorem sampleLoopStage_drops :
    let placed := sampleLoopStage.drop ⟨Uuid.ofNat 7⟩ sampleNewText ⟨Uuid.ofNat 1⟩
      (some ⟨Uuid.ofNat 1⟩)
    let node := Block.unplaced ⟨Uuid.ofNat 7⟩ (.look (.say "new"))
    sampleLoopStage.world.Sound ∧
      (Exists fun request => Drop.Asks ⟨Uuid.ofNat 7⟩ sampleMoveText request ∧
        request.Admissible sampleLoopStage.world ⟨Uuid.ofNat 2⟩ none ∧
        Obeys ⟨Uuid.ofNat 2⟩ none request sampleLoopStage ⟨Uuid.ofNat 2⟩
          (sampleLoopStage.drop ⟨Uuid.ofNat 7⟩ sampleMoveText ⟨Uuid.ofNat 2⟩ none).2) ∧
      Drop.Asks ⟨Uuid.ofNat 7⟩ sampleNewText (.create node) ∧
      (Drop.create node).Admissible sampleLoopStage.world ⟨Uuid.ofNat 1⟩ (some ⟨Uuid.ofNat 1⟩) ∧
      Obeys ⟨Uuid.ofNat 1⟩ (some ⟨Uuid.ofNat 1⟩) (.create node) sampleLoopStage ⟨Uuid.ofNat 7⟩
        placed.2 ∧
      (placed.2.world.programs.find? ⟨Uuid.ofNat 7⟩).map Block.kind =
        some (.look (.say "new")) ∧
      (sampleLoopStage.drop ⟨Uuid.ofNat 7⟩ sampleNewText ⟨Uuid.ofNat 1⟩
        (some ⟨Uuid.ofNat 2⟩)).2 = sampleLoopStage := by
  intro placed node
  have created := World.Created.standard ⟨Uuid.ofNat 1⟩ ⟨Uuid.ofNat 2⟩ Settings.standard 0
    (by decide)
  have sound : sampleLoopStage.world.Sound :=
    created.sound.insert World.sampleTree_allowed.1 World.sampleTree_allowed.2 _ _
  have moved := drop_obeys_or_ignores sound ⟨Uuid.ofNat 7⟩ sampleMoveText ⟨Uuid.ofNat 2⟩ none
  have obeyed := drop_obeys_or_ignores sound ⟨Uuid.ofNat 7⟩ sampleNewText ⟨Uuid.ofNat 1⟩
    (some ⟨Uuid.ofNat 1⟩)
  have ignored := drop_obeys_or_ignores sound ⟨Uuid.ofNat 7⟩ sampleNewText ⟨Uuid.ofNat 1⟩
    (some ⟨Uuid.ofNat 2⟩)
  have records : Drop.Records sampleNewText
      ⟨false, none, some "look", some "say", [("message", .text "new")]⟩ none :=
    ⟨by decide +kernel, rfl⟩
  have offered : Kind.Offers "look" "say" (.look (.say "Hello!")) := by decide +kernel
  have asks : Drop.Asks ⟨Uuid.ofNat 7⟩ sampleNewText (.create node) :=
    .create records rfl offered ⟨rfl, by decide +kernel⟩
  rcases obeyed.2.2 ⟨Uuid.ofNat 7⟩ (by decide +kernel) with ⟨request, asked, admissible, obeys⟩
  cases asked.unique asks
  exact ⟨sound, moved.2.2 _ (by decide +kernel), asks, admissible, obeys, by decide +kernel,
    ignored.2.1 (by decide +kernel)⟩

end Sample

end Stage

end SpriteStage
