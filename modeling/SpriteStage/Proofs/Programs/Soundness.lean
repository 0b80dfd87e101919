import SpriteStage.Proofs.Programs.Lookup

namespace SpriteStage

/-!
# Sound stores

A store is sound when no identifier is used twice in it, every block says
where it is, and only blocks of a kind that holds others have children.  Every
edit of a sound store leaves a sound store.  A move in a sound store either
changes nothing or succeeds: the refusals settled before the removal are all
that there are, since what was just removed can be inserted again.
-/

theorem Kind.holdsBlocks_of_set {kind changed : Kind} {name : String} {value : Parameter}
    (setting : kind.set name value = .ok changed) :
    changed.holdsBlocks = kind.holdsBlocks := by
  unfold Kind.set at setting
  split at setting <;> cases setting <;> rfl

namespace Programs

/-- What all programs of a stage have to satisfy together. -/
structure Sound (store : Programs) : Prop where
  unique : store.ids.Nodup
  placed : forall actor, Forest.Placed actor (store.forest actor)
  nested : forall actor, Forest.Nested (store.forest actor)

/-- The actor whose program an actor receives when two exchange theirs. -/
def partner (one two other : ActorId) : ActorId :=
  if other = two then one else if other = one then two else other

theorem partner_injective {one two first second : ActorId}
    (same : partner one two first = partner one two second) : first = second := by
  unfold partner at same
  grind

namespace Sound

variable {store next : Programs} {actor owner : ActorId} {id : BlockId} {node : Block}
  {parent : Option BlockId}

theorem distinct (sound : store.Sound) (actor : ActorId) :
    (Forest.ids (store.forest actor)).Nodup := (nodup_ids_iff.1 sound.unique).1 actor

theorem owner_unique (sound : store.Sound) {one two : ActorId}
    (inOne : id ∈ Forest.ids (store.forest one)) (inTwo : id ∈ Forest.ids (store.forest two)) :
    one = two := (nodup_ids_iff.1 sound.unique).2 one two id inOne inTwo

/-- In a sound store a block is located in the only program that has it. -/
theorem locate_eq_some (sound : store.Sound)
    (found : Forest.find? id (store.forest actor) = some node) :
    store.locate id = some (actor, node) := by
  have member := Forest.mem_ids_of_find? found
  cases located : store.locate id with
  | none => exact absurd member (locate_eq_none_iff.1 located actor)
  | some pair =>
    rcases pair with ⟨owner, other⟩
    have foundThere := find?_of_locate located
    have same := sound.owner_unique (Forest.mem_ids_of_find? foundThere) member
    rw [same, found, Option.some.injEq] at foundThere
    rw [same, foundThere]

theorem empty : Programs.empty.Sound where
  unique := List.nodup_nil
  placed := fun _ => Forest.placed_iff_relabel.2 rfl
  nested := fun _ => Forest.nested_nil

/-- Replacing one program keeps a store sound if the new program is sound by
itself and its blocks are in no other one. -/
theorem withForest (sound : store.Sound) {forest : Forest}
    (distinct : (Forest.ids forest).Nodup) (placed : Forest.Placed actor forest)
    (nested : Forest.Nested forest)
    (apart : forall id, id ∈ Forest.ids forest ->
      forall other, other ≠ actor -> id ∉ Forest.ids (store.forest other)) :
    (store.withForest actor forest).Sound where
  unique := by
    rw [nodup_ids_iff]
    refine ⟨?_, ?_⟩
    · intro other
      rw [forest_withForest]
      split
      · exact distinct
      · exact sound.distinct other
    · intro one two id inOne inTwo
      rw [forest_withForest] at inOne inTwo
      by_cases first : one = actor <;> by_cases second : two = actor
      · exact first.trans second.symm
      · rw [if_pos first] at inOne
        rw [if_neg second] at inTwo
        exact absurd inTwo (apart id inOne two second)
      · rw [if_neg first] at inOne
        rw [if_pos second] at inTwo
        exact absurd inOne (apart id inTwo one first)
      · rw [if_neg first] at inOne
        rw [if_neg second] at inTwo
        exact sound.owner_unique inOne inTwo
  placed := by
    intro other
    rw [forest_withForest]
    split
    · rename_i same
      rw [same]
      exact placed
    · exact sound.placed other
  nested := by
    intro other
    rw [forest_withForest]
    split
    · exact nested
    · exact sound.nested other

/-! ## Inserting -/

/-- The program with a new tree has the blocks of both. -/
theorem kinds_grown (sound : store.Sound) (node : Block) (admitted : store.Admits parent actor) :
    (Forest.kinds (store.grown node parent actor)).Perm
      (Forest.kinds (store.forest actor) ++ Forest.kinds [node]) := by
  cases parent with
  | none =>
    rw [grown, Forest.kinds_append]
    have same := Forest.kinds_relabel actor none [node]
    exact List.Perm.of_eq (congrArg (Forest.kinds (store.forest actor) ++ ·) same)
  | some above =>
    rcases admitted above rfl with ⟨target, found, _⟩
    have joined := Forest.kinds_perm_adopt (node.relabel actor (some above))
      (sound.distinct actor) (Forest.mem_ids_of_find? found)
    have same := Forest.kinds_relabel actor (some above) [node]
    rw [grown, Forest.updated_eq_revise (sound.distinct actor)]
    exact joined.trans (List.Perm.of_eq (congrArg (Forest.kinds (store.forest actor) ++ ·) same))

theorem ids_grown (sound : store.Sound) (node : Block) (admitted : store.Admits parent actor) :
    (Forest.ids (store.grown node parent actor)).Perm
      (Forest.ids (store.forest actor) ++ node.ids) := by
  have joined := (sound.kinds_grown node admitted).map Prod.fst
  rw [List.map_append, Forest.map_fst_kinds, Forest.map_fst_kinds, Forest.map_fst_kinds] at joined
  rwa [Block.ids_eq_forest]

theorem find?_grown (sound : store.Sound) (admitted : store.Admits parent actor)
    (absent : node.id ∉ Forest.ids (store.forest actor)) :
    Forest.find? node.id (store.grown node parent actor) = some (node.relabel actor parent) := by
  have sameId : (node.relabel actor parent).id = node.id := by
    rw [Block.relabel_eq]
  rw [← sameId] at absent ⊢
  cases parent with
  | none =>
    rw [grown, Forest.find?_append, Forest.find?_eq_none_iff.2 absent]
    exact Forest.find?_cons_of_eq [] rfl
  | some above =>
    rcases admitted above rfl with ⟨target, found, _⟩
    rw [grown, Forest.updated_eq_revise (sound.distinct actor)]
    exact Forest.find?_adopt (sound.distinct actor) (Forest.mem_ids_of_find? found) absent

theorem placed_grown (sound : store.Sound) :
    Forest.Placed actor (store.grown node parent actor) := by
  cases parent with
  | none =>
    have old := Forest.placed_iff_relabel.1 (sound.placed actor)
    have new := Forest.relabel_relabel actor actor none none [node]
    rw [Forest.placed_iff_relabel, grown, Forest.relabel_append, old]
    exact congrArg (store.forest actor ++ ·) new
  | some above =>
    rw [grown, Forest.updated_eq_revise (sound.distinct actor)]
    exact Forest.placed_adopt (sound.placed actor)

theorem nested_grown (sound : store.Sound) (admitted : store.Admits parent actor)
    (nodeNested : Forest.Nested [node]) :
    Forest.Nested (store.grown node parent actor) := by
  cases parent with
  | none =>
    have new : Forest.Nested (Forest.relabel actor none [node]) :=
      (Forest.nested_relabel none).2 nodeNested
    exact Forest.nested_append.2 ⟨sound.nested actor, new⟩
  | some above =>
    rcases admitted above rfl with ⟨target, found, holds⟩
    have new : Forest.Nested (Forest.relabel actor (some above) [node]) :=
      (Forest.nested_relabel (some above)).2 nodeNested
    rw [grown, Forest.updated_eq_revise (sound.distinct actor)]
    apply Forest.nested_adopt (sound.nested actor) new
    intro other member same
    have listed : (above, other.kind) ∈ Forest.kinds (store.forest actor) :=
      same ▸ List.mem_map_of_mem member
    rw [Forest.kind_unique (sound.distinct actor) listed (Forest.mem_kinds_of_find? found)]
    exact holds

theorem insert (sound : store.Sound) (nodeDistinct : node.ids.Nodup)
    (nodeNested : Forest.Nested [node])
    (inserted : store.insert node parent actor = .ok next) : next.Sound := by
  rcases insert_eq_ok_iff.1 inserted with ⟨unplaced, admitted, rfl⟩
  have joined := sound.ids_grown node admitted
  have disjoint : (Forest.ids (store.forest actor)).Disjoint node.ids :=
    fun id old new => unplaced id new actor old
  apply sound.withForest
  · exact joined.nodup_iff.2 ((sound.distinct actor).append nodeDistinct disjoint)
  · exact placed_grown sound
  · exact nested_grown sound admitted nodeNested
  · intro id member other different inOther
    rcases List.mem_append.1 (joined.mem_iff.1 member) with old | new
    · exact different (sound.owner_unique inOther old)
    · exact unplaced id new other inOther

theorem locate_of_insert (sound : store.Sound) (nodeDistinct : node.ids.Nodup)
    (nodeNested : Forest.Nested [node])
    (inserted : store.insert node parent actor = .ok next) :
    next.locate node.id = some (actor, node.relabel actor parent) := by
  have nextSound := sound.insert nodeDistinct nodeNested inserted
  rcases insert_eq_ok_iff.1 inserted with ⟨unplaced, admitted, rfl⟩
  have own : node.id ∈ node.ids := by
    rw [Block.ids_eq]
    exact List.mem_cons_self
  apply nextSound.locate_eq_some
  rw [forest_withForest_self]
  exact sound.find?_grown admitted (unplaced node.id own actor)

/-! ## Removing and moving -/

theorem withPruned (sound : store.Sound)
    (found : Forest.find? id (store.forest owner) = some node) :
    (store.withForest owner (Forest.prune id (store.forest owner))).Sound := by
  apply sound.withForest
  · exact Forest.nodup_ids_prune (sound.distinct owner) found
  · exact Forest.placed_prune (sound.placed owner)
  · exact Forest.nested_prune (sound.nested owner)
  · intro block member other different inOther
    exact different (sound.owner_unique inOther
      (Forest.mem_ids_of_mem_prune (sound.distinct owner) found member))

theorem remove (sound : store.Sound) (removed : store.remove id = .ok (node, next)) :
    next.Sound := by
  rcases (remove_eq_ok_iff sound.unique).1 removed with ⟨owner, found, rfl⟩
  exact sound.withPruned found

/-- A removed tree can be inserted again where its place was admitted before,
unless that is inside the tree. -/
theorem insert_after_remove (sound : store.Sound)
    (found : Forest.find? id (store.forest owner) = some node)
    (admitted : store.Admits parent actor)
    (outside : forall above, parent = some above -> above ∉ node.ids) :
    let without := store.withForest owner (Forest.prune id (store.forest owner))
    without.insert node parent actor =
      .ok (without.withForest actor (without.grown node parent actor)) := by
  intro without
  rw [insert_eq_ok_iff]
  refine ⟨?_, ?_, rfl⟩
  · intro block member other
    rw [forest_withForest]
    split
    · exact Forest.notMem_prune_of_mem (sound.distinct owner) found member
    · rename_i different
      intro inOther
      have inOwner := (Forest.ids_perm_prune (sound.distinct owner) found).mem_iff.2
        (List.mem_append_left _ member)
      exact different (sound.owner_unique inOther inOwner)
  · intro above same
    rcases admitted above same with ⟨target, targetFound, holds⟩
    rw [forest_withForest]
    split
    · rename_i sameOwner
      rw [sameOwner] at targetFound
      rcases Forest.exists_find?_prune (sound.distinct owner) found targetFound
        (outside above same) with ⟨left, leftFound, kept⟩
      exact ⟨left, leftFound, kept.symm ▸ holds⟩
    · exact ⟨target, targetFound, holds⟩

/-- A move in a sound store is refused without a change, or it is a removal
and an insertion that both succeed. -/
theorem move_cases (sound : store.Sound) (id : BlockId) (actor : ActorId)
    (parent : Option BlockId) :
    (Exists fun refusal => store.move id actor parent = (store, .error refusal)) ∨
      Exists fun owner => Exists fun node =>
        let without := store.withForest owner (Forest.prune id (store.forest owner))
        store.locate id = some (owner, node) ∧
          store.Admits parent actor ∧
          without.insert node parent actor =
            .ok (without.withForest actor (without.grown node parent actor)) ∧
          store.move id actor parent =
            (without.withForest actor (without.grown node parent actor), .ok ()) := by
  rw [move]
  cases located : store.locate id with
  | none => exact Or.inl ⟨_, rfl⟩
  | some pair =>
    rcases pair with ⟨owner, node⟩
    dsimp only
    cases early : store.moveRefusal? node actor parent with
    | some refusal => exact Or.inl ⟨refusal, rfl⟩
    | none =>
      rcases moveRefusal?_eq_none_iff.1 early with ⟨outside, admitted⟩
      have found := find?_of_locate located
      -- the refusals that are left concern the insertion, and none of them applies
      have removed := (remove_eq_ok_iff sound.unique).2 ⟨owner, found, rfl⟩
      have inserted := sound.insert_after_remove found admitted outside
      refine Or.inr ⟨owner, node, rfl, admitted, inserted, ?_⟩
      rw [removed]
      dsimp only
      rw [inserted]

theorem move (sound : store.Sound) (id : BlockId) (actor : ActorId) (parent : Option BlockId) :
    (store.move id actor parent).1.Sound := by
  rcases sound.move_cases id actor parent with
    ⟨refusal, same⟩ | ⟨owner, node, located, _, inserted, same⟩
  · rw [same]
    exact sound
  · have found := find?_of_locate located
    have inForest := Forest.mem_nodes_of_find? found
    rw [same]
    exact (sound.withPruned found).insert (Forest.nodup_ids_found (sound.distinct owner) found)
      (Forest.nested_of_mem (sound.nested owner) inForest) inserted

/-! ## The other edits -/

theorem adjust (sound : store.Sound) {name : String} {value : Parameter}
    (adjusted : store.adjust id name value = .ok next) : next.Sound := by
  rcases adjust_eq_ok adjusted with ⟨owner, node, kind, located, setting, rfl⟩
  have found := find?_of_locate located
  have distinct := sound.distinct owner
  rw [Forest.updated_eq_revise distinct]
  have sameIds := Forest.ids_withKind id kind distinct
  apply sound.withForest
  · rw [sameIds]
    exact distinct
  · exact Forest.placed_withKind kind (sound.placed owner)
  · apply Forest.nested_withKind (sound.nested owner)
    intro other member same
    have listed : (id, other.kind) ∈ Forest.kinds (store.forest owner) :=
      same ▸ List.mem_map_of_mem member
    rw [Forest.kind_unique distinct listed (Forest.mem_kinds_of_find? found)]
    exact Kind.holdsBlocks_of_set setting
  · intro block member other different inOther
    rw [sameIds] at member
    exact different (sound.owner_unique inOther member)

theorem erase (sound : store.Sound) (actor : ActorId) : (store.erase actor).Sound where
  unique := by
    rw [nodup_ids_iff]
    refine ⟨?_, ?_⟩
    · intro other
      rw [forest_erase]
      split
      · exact List.nodup_nil
      · exact sound.distinct other
    · intro one two id inOne inTwo
      rw [forest_erase] at inOne inTwo
      split at inOne
      · exact absurd inOne List.not_mem_nil
      · split at inTwo
        · exact absurd inTwo List.not_mem_nil
        · exact sound.owner_unique inOne inTwo
  placed := by
    intro other
    rw [forest_erase]
    split
    · exact Forest.placed_iff_relabel.2 rfl
    · exact sound.placed other
  nested := by
    intro other
    rw [forest_erase]
    split
    · exact Forest.nested_nil
    · exact sound.nested other

/-- An exchange hands every actor the relabelled program of its partner. -/
theorem forest_exchange_eq_relabel (sound : store.Sound) (one two other : ActorId) :
    (store.exchange one two).forest other =
      Forest.relabel other none (store.forest (partner one two other)) := by
  by_cases equal : one = two
  · have own : partner one two other = other := by
      unfold partner
      grind
    rw [Programs.exchange, if_pos equal, own]
    exact (Forest.placed_iff_relabel.1 (sound.placed other)).symm
  · rw [forest_exchange equal, partner]
    split
    · rename_i same
      rw [same]
    · split
      · rename_i same
        rw [same]
      · exact (Forest.placed_iff_relabel.1 (sound.placed other)).symm

theorem exchange (sound : store.Sound) (one two : ActorId) :
    (store.exchange one two).Sound where
  unique := by
    rw [nodup_ids_iff]
    refine ⟨?_, ?_⟩
    · intro other
      rw [sound.forest_exchange_eq_relabel, Forest.ids_relabel]
      exact sound.distinct _
    · intro first second id inFirst inSecond
      rw [sound.forest_exchange_eq_relabel, Forest.ids_relabel] at inFirst inSecond
      exact partner_injective (sound.owner_unique inFirst inSecond)
  placed := by
    intro other
    rw [sound.forest_exchange_eq_relabel]
    exact Forest.placed_relabel other _
  nested := by
    intro other
    rw [sound.forest_exchange_eq_relabel]
    exact (Forest.nested_relabel none).2 (sound.nested _)

end Sound

end Programs

end SpriteStage
