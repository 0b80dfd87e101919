import SpriteStage.Proofs.Block.Ownership
import SpriteStage.Proofs.Programs.Arrival

namespace SpriteStage

/-!
# Moves in a sound store

A move succeeds in a sound store just when the block is placed and its
destination is the top level, or a block of the actor's program that holds
others and is outside the tree that is moved.  Otherwise the first reason that
applies is given, and the store stays as it is.

A block that is moved comes to the end of its destination with everything
below it.  Nothing else happens: take the block out again, and every program
is what it is when the block is taken out without having been moved.
-/

namespace Programs

/-- Whether a block can be moved to a place. -/
structure Movable (store : Programs) (id : BlockId) (actor : ActorId)
    (parent : Option BlockId) : Prop where
  placed : store.holds id = true
  admitted : store.Admits parent actor
  outside : forall above, parent = some above ->
    forall node, store.find? id = some node -> above ∉ node.ids

/-- Why a block cannot be moved to a place.  No two of the reasons apply to
one move, since each supposes that those before it do not. -/
inductive Immovable (store : Programs) (id : BlockId) (actor : ActorId)
    (parent : Option BlockId) : ProgramRefusal -> Prop
  | noBlock (missing : forall owner, id ∉ Forest.ids (store.forest owner)) :
      Immovable store id actor parent (.noBlock id)
  | cycle {node : Block} {above : BlockId} (found : store.find? id = some node)
      (destination : parent = some above) (inside : above ∈ node.ids) :
      Immovable store id actor parent (.cycle id above)
  | noParent {node : Block} {above : BlockId} (found : store.find? id = some node)
      (destination : parent = some above) (outside : above ∉ node.ids)
      (missing : above ∉ Forest.ids (store.forest actor)) :
      Immovable store id actor parent (.noParent above actor)
  | noContainer {node target : Block} {above : BlockId} (found : store.find? id = some node)
      (destination : parent = some above) (outside : above ∉ node.ids)
      (there : Forest.find? above (store.forest actor) = some target)
      (plain : target.kind.holdsBlocks = false) :
      Immovable store id actor parent (.noContainer above)

/-- What a move does: the tree is taken out, and stands at the end of its
destination with another owner and, at its root, another parent. -/
structure Relocates (id : BlockId) (actor : ActorId) (parent : Option BlockId) (node : Block)
    (before without after : Programs) : Prop where
  found : before.find? id = some node
  removed : before.remove id = .ok (node, without)
  /-- The sequence that the tree is the last of was there without it. -/
  last : Exists fun earlier =>
    Forest.sequence? parent (without.forest actor) = some earlier ∧
      Forest.sequence? parent (after.forest actor) =
        some (earlier ++ [{ node.ownedBy actor with parent := parent }])
  /-- Taking the tree out after the move leaves what taking it out before does. -/
  same : Exists fun left =>
    after.remove id = .ok ({ node.ownedBy actor with parent := parent }, left) ∧
      forall other, left.forest other = without.forest other

variable {store after : Programs} {actor owner : ActorId} {id above : BlockId} {node : Block}
  {parent : Option BlockId} {refusal : ProgramRefusal}

theorem find?_eq_some_iff : store.find? id = some node <->
    Exists fun owner => store.locate id = some (owner, node) := by
  rw [find?, Option.map_eq_some_iff]
  constructor
  · rintro ⟨⟨owner, found⟩, located, rfl⟩
    exact ⟨owner, located⟩
  · rintro ⟨owner, located⟩
    exact ⟨(owner, node), located, rfl⟩

theorem holds_iff_exists_find? : store.holds id = true <->
    Exists fun node => store.find? id = some node := by
  rw [← Option.isSome_iff_exists, find?, Option.isSome_map, holds]

/-- What shows before a move is one of the reasons against it. -/
theorem immovable_of_moveRefusal? (located : store.locate id = some (owner, node))
    (early : store.moveRefusal? node actor parent = some refusal) :
    Immovable store id actor parent refusal := by
  have found : store.find? id = some node := find?_eq_some_iff.2 ⟨owner, located⟩
  have sameId : node.id = id := Forest.id_of_find? (find?_of_locate located)
  cases parent with
  | none => cases early
  | some above =>
    rw [moveRefusal?] at early
    by_cases inside : above ∈ node.ids
    · rw [if_pos (Block.contains_iff.2 inside), sameId] at early
      cases early
      exact .cycle found rfl inside
    · rw [if_neg (Block.contains_iff.not.2 inside)] at early
      cases there : Forest.find? above (store.forest actor) with
      | none =>
        rw [there] at early
        cases early
        exact .noParent found rfl inside (Forest.find?_eq_none_iff.1 there)
      | some target =>
        rw [there] at early
        dsimp only at early
        by_cases holds : target.kind.holdsBlocks = true
        · rw [if_pos holds] at early
          cases early
        · rw [if_neg holds] at early
          cases early
          exact .noContainer found rfl inside there (Bool.eq_false_iff.2 holds)

namespace Immovable

/-- A reason against a move excludes it. -/
theorem not_movable (immovable : Immovable store id actor parent refusal) :
    ¬ Movable store id actor parent := by
  intro movable
  cases immovable with
  | noBlock missing =>
    rcases holds_iff.1 movable.placed with ⟨owner, member⟩
    exact missing owner member
  | cycle found destination inside => exact movable.outside _ destination _ found inside
  | noParent found destination outside missing =>
    rcases movable.admitted _ destination with ⟨target, there, _⟩
    exact missing (Forest.mem_ids_of_find? there)
  | noContainer found destination outside there plain =>
    rcases movable.admitted _ destination with ⟨target, thereToo, holds⟩
    rw [there, Option.some.injEq] at thereToo
    rw [thereToo, holds] at plain
    cases plain

/-- A reason against a move is what a search for the block and the checks
before the move find. -/
theorem found_first (immovable : Immovable store id actor parent refusal) :
    (match store.find? id with
      | none => some (.noBlock id)
      | some node => store.moveRefusal? node actor parent) = some refusal := by
  cases immovable with
  | noBlock missing =>
    have nowhere : store.find? id = none := by
      rw [find?, locate_eq_none_iff.2 missing]
      rfl
    rw [nowhere]
  | @cycle node above found destination inside =>
    rcases find?_eq_some_iff.1 found with ⟨owner, located⟩
    have sameId : node.id = id := Forest.id_of_find? (find?_of_locate located)
    rw [found, destination]
    dsimp only [moveRefusal?]
    rw [if_pos (Block.contains_iff.2 inside), sameId]
  | noParent found destination outside missing =>
    rw [found, destination]
    dsimp only [moveRefusal?]
    rw [if_neg (Block.contains_iff.not.2 outside), Forest.find?_eq_none_iff.2 missing]
  | noContainer found destination outside there plain =>
    rw [found, destination]
    dsimp only [moveRefusal?]
    rw [if_neg (Block.contains_iff.not.2 outside), there]
    dsimp only
    rw [plain]
    rfl

/-- At most one reason applies. -/
theorem unique {other : ProgramRefusal} (one : Immovable store id actor parent refusal)
    (two : Immovable store id actor parent other) : refusal = other :=
  Option.some.inj (one.found_first.symm.trans two.found_first)

end Immovable

namespace Sound

/-- A tree that was taken out and inserted again is all that taking it out once
more takes away. -/
theorem relocates (sound : store.Sound) (located : store.locate id = some (owner, node))
    (admitted : store.Admits parent actor)
    (outside : forall above, parent = some above -> above ∉ node.ids) :
    let without := store.withForest owner (Forest.prune id (store.forest owner))
    Relocates id actor parent node store without
      (without.withForest actor (without.grown node parent actor)) := by
  intro without
  have found := find?_of_locate located
  have member := Forest.mem_nodes_of_find? found
  have removed := (remove_eq_ok_iff sound.unique).2 ⟨owner, found, rfl⟩
  have lands := (sound.withPruned found).lands
    (Forest.nodup_ids_found (sound.distinct owner) found)
    (sound.insert_after_remove found admitted outside)
  rw [(sound.placed owner).relabel_eq_of_mem member parent] at lands
  have own : (node.ownedBy actor).id = id :=
    (Block.id_ownedBy actor node).trans (Forest.id_of_find? found)
  exact ⟨find?_eq_some_iff.2 ⟨owner, located⟩, removed, lands.last, own ▸ lands.same⟩

/-- A move of a sound store does what a move does, or is refused for a reason
and leaves the store as it is. -/
theorem move_outcome (sound : store.Sound) (id : BlockId) (actor : ActorId)
    (parent : Option BlockId) :
    (Movable store id actor parent ∧
      Exists fun node => Exists fun without => Exists fun after =>
        store.move id actor parent = (after, .ok ()) ∧
          Relocates id actor parent node store without after) ∨
      Exists fun refusal => store.move id actor parent = (store, .error refusal) ∧
        Immovable store id actor parent refusal := by
  cases located : store.locate id with
  | none =>
    refine Or.inr ⟨.noBlock id, ?_, .noBlock (locate_eq_none_iff.1 located)⟩
    rw [Programs.move, located]
  | some pair =>
    rcases pair with ⟨owner, node⟩
    have found : store.find? id = some node := find?_eq_some_iff.2 ⟨owner, located⟩
    cases early : store.moveRefusal? node actor parent with
    | some refusal =>
      refine Or.inr ⟨refusal, ?_, immovable_of_moveRefusal? located early⟩
      rw [Programs.move, located]
      dsimp only
      rw [early]
    | none =>
      rcases moveRefusal?_eq_none_iff.1 early with ⟨outside, admitted⟩
      have movable : Movable store id actor parent := by
        refine ⟨holds_iff_exists_find?.2 ⟨node, found⟩, admitted, ?_⟩
        intro above destination other foundToo
        rw [found, Option.some.injEq] at foundToo
        exact foundToo ▸ outside above destination
      have relocates := sound.relocates located admitted outside
      have inserted := sound.insert_after_remove (find?_of_locate located) admitted outside
      refine Or.inl ⟨movable, node, _, _, ?_, relocates⟩
      rw [Programs.move, located]
      dsimp only
      rw [early, relocates.removed]
      dsimp only
      rw [inserted]

end Sound

/-- In a sound store a move succeeds just when it can; it is refused for the
first reason against it, and then changes nothing; and it takes the tree to the
end of its destination, and does nothing else.

In a store that is not sound a move can lose its tree, and nothing is claimed
about that here.  The errors are told apart by the first reason in the order of
the checks, and of two reasons only that one is reported. -/
theorem move_exact (sound : store.Sound) (id : BlockId) (actor : ActorId)
    (parent : Option BlockId) :
    ((store.move id actor parent).2 = .ok () <-> Movable store id actor parent) ∧
      (forall refusal, (store.move id actor parent).2 = .error refusal <->
        Immovable store id actor parent refusal) ∧
      (forall refusal, (store.move id actor parent).2 = .error refusal ->
        (store.move id actor parent).1 = store) ∧
      ((store.move id actor parent).2 = .ok () ->
        Exists fun node => Exists fun without =>
          Relocates id actor parent node store without (store.move id actor parent).1) := by
  rcases sound.move_outcome id actor parent with
    ⟨movable, node, without, after, moved, relocates⟩ | ⟨refusal, refused, immovable⟩
  · rw [moved]
    refine ⟨iff_of_true rfl movable, ?_, nofun, fun _ => ⟨node, without, relocates⟩⟩
    intro refusal
    exact iff_of_false nofun fun immovable => immovable.not_movable movable
  · rw [refused]
    refine ⟨iff_of_false nofun immovable.not_movable, ?_, fun _ _ => rfl, nofun⟩
    intro other
    constructor
    · intro same
      cases same
      exact immovable
    · intro otherToo
      rw [immovable.unique otherToo]

section Sample

/-- A loop around a word and another loop, and an empty loop of someone else. -/
def sampleShelves : Programs :=
  (empty.withForest ⟨Uuid.ofNat 1⟩
    [⟨⟨Uuid.ofNat 1⟩, .control (.times 2), ⟨Uuid.ofNat 1⟩, none,
      [⟨⟨Uuid.ofNat 2⟩, .look (.say "word"), ⟨Uuid.ofNat 1⟩, some ⟨Uuid.ofNat 1⟩, []⟩,
        ⟨⟨Uuid.ofNat 3⟩, .control (.times 3), ⟨Uuid.ofNat 1⟩, some ⟨Uuid.ofNat 1⟩,
          [⟨⟨Uuid.ofNat 4⟩, .look (.say "other"), ⟨Uuid.ofNat 1⟩, some ⟨Uuid.ofNat 3⟩,
            []⟩]⟩]⟩]).withForest ⟨Uuid.ofNat 2⟩
    [⟨⟨Uuid.ofNat 5⟩, .control (.times 2), ⟨Uuid.ofNat 2⟩, none, []⟩]

theorem sampleShelves_sound : sampleShelves.Sound := by
  refine (Sound.empty.withForest ?_ ?_ ?_ ?_).withForest ?_ ?_ ?_ ?_
  · decide
  · exact Forest.placed_iff_relabel.2 rfl
  · simp [Forest.nested_cons, Forest.nested_nil, Kind.holdsBlocks]
  · exact fun _ _ _ _ => List.not_mem_nil
  · decide
  · exact Forest.placed_iff_relabel.2 rfl
  · simp [Forest.nested_cons, Forest.nested_nil]
  · intro id member other _ inOther
    rw [forest_withForest] at inOther
    split at inOther
    · revert id
      decide
    · exact absurd inOther List.not_mem_nil

/-- The inner loop goes to the other actor with its word.  The outer loop cannot
go into the inner one. -/
theorem sampleShelves_moves :
    sampleShelves.Sound ∧
      (Exists fun node => Exists fun without =>
        Relocates ⟨Uuid.ofNat 3⟩ ⟨Uuid.ofNat 2⟩ (some ⟨Uuid.ofNat 5⟩) node sampleShelves without
          (sampleShelves.move ⟨Uuid.ofNat 3⟩ ⟨Uuid.ofNat 2⟩ (some ⟨Uuid.ofNat 5⟩)).1) ∧
      Immovable sampleShelves ⟨Uuid.ofNat 1⟩ ⟨Uuid.ofNat 1⟩ (some ⟨Uuid.ofNat 3⟩)
        (.cycle ⟨Uuid.ofNat 1⟩ ⟨Uuid.ofNat 3⟩) := by
  have inner := move_exact sampleShelves_sound ⟨Uuid.ofNat 3⟩ ⟨Uuid.ofNat 2⟩
    (some ⟨Uuid.ofNat 5⟩)
  have outer := move_exact sampleShelves_sound ⟨Uuid.ofNat 1⟩ ⟨Uuid.ofNat 1⟩
    (some ⟨Uuid.ofNat 3⟩)
  exact ⟨sampleShelves_sound, inner.2.2.2 (by decide), (outer.2.1 _).1 (by decide)⟩

end Sample

end Programs

end SpriteStage
