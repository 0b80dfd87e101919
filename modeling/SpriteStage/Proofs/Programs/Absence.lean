import SpriteStage.Proofs.Programs.Seclusion

namespace SpriteStage

/-!
# Stores without an actor

A store does not name an actor when it has no row for the actor and none of
its blocks says that it belongs to the actor.  Forgetting the program of an
actor leaves such a store, and no edit for the sake of others makes it name
the actor again.  Nothing is asked of the trees that are inserted, and an edit
that loses a tree is no exception.
-/

namespace Programs

/-- Whether a store has neither a row for an actor nor a block that names it. -/
structure Unnamed (actor : ActorId) (store : Programs) : Prop where
  row : actor ∉ store.forests.keys
  owners : forall other, actor ∉ Forest.owners (store.forest other)

namespace Unnamed

variable {store next without : Programs} {actor other : ActorId} {id : BlockId}
  {node taken : Block} {parent : Option BlockId}

theorem forest_eq_nil (unnamed : store.Unnamed actor) : store.forest actor = [] := by
  by_contra blocks
  exact unnamed.row (List.mem_map_of_mem (row_of_ne_nil blocks))

/-- Whoever has a block is somebody else. -/
theorem ne_of_mem_ids (unnamed : store.Unnamed actor)
    (member : id ∈ Forest.ids (store.forest other)) : other ≠ actor := by
  rintro rfl
  rw [unnamed.forest_eq_nil] at member
  exact absurd member List.not_mem_nil

theorem withForest (unnamed : store.Unnamed actor) (different : other ≠ actor) {forest : Forest}
    (foreign : actor ∉ Forest.owners forest) : (store.withForest other forest).Unnamed actor where
  row := by
    rw [Table.keys, Programs.withForest, Table.set, Table.mem_keys_replace, not_or]
    exact ⟨Ne.symm different, unnamed.row⟩
  owners := by
    intro someone
    rw [forest_withForest]
    split
    · exact foreign
    · exact unnamed.owners someone

/-- The blocks of a tree that is inserted name the actor that gets them. -/
theorem insert (unnamed : store.Unnamed actor) (different : other ≠ actor)
    (inserted : store.insert node parent other = .ok next) : next.Unnamed actor := by
  rcases insert_eq_ok_iff.1 inserted with ⟨_, _, rfl⟩
  have foreign : forall above, actor ∉ Forest.owners [node.relabel other above] :=
    fun above named => different (Forest.owner_of_mem_relabel [node] named).symm
  apply unnamed.withForest different
  intro named
  cases parent with
  | none =>
    rw [grown, Forest.owners, Forest.labels_append, List.mem_append] at named
    exact named.elim (unnamed.owners other) (foreign none)
  | some above =>
    have old : actor ∈ Forest.owners (store.forest other) ∨ False := by
      refine Forest.mem_labels_of_updated Forest.shallow_actor ?_ named
      intro target inTarget
      rw [Forest.labels_adopt Forest.shallow_actor, List.mem_append] at inTarget
      exact inTarget.imp_right (foreign (some above))
    exact unnamed.owners other (old.resolve_right not_false)

theorem remove (unnamed : store.Unnamed actor)
    (removed : store.remove id = .ok (taken, without)) : without.Unnamed actor := by
  rcases detaches_of_remove removed with ⟨owner, left, detached, rfl⟩
  apply unnamed.withForest (unnamed.ne_of_mem_ids detached.mem_ids)
  intro named
  have parts := detached.labels_perm Forest.shallow_actor
  exact unnamed.owners owner (parts.mem_iff.2 (List.mem_append_right _ named))

theorem move (unnamed : store.Unnamed actor) (different : other ≠ actor) (id : BlockId)
    (parent : Option BlockId) : (store.move id other parent).1.Unnamed actor :=
  move_of_kept unnamed (fun _ _ removed => unnamed.remove removed)
    fun _ _ _ left inserted => left.insert different inserted

theorem adjust (unnamed : store.Unnamed actor) {name : String} {value : Parameter}
    (adjusted : store.adjust id name value = .ok next) : next.Unnamed actor := by
  rcases adjust_eq_ok adjusted with ⟨owner, node, kind, located, _, rfl⟩
  have placed := Forest.mem_ids_of_find? (find?_of_locate located)
  apply unnamed.withForest (unnamed.ne_of_mem_ids placed)
  intro named
  have old : actor ∈ Forest.owners (store.forest owner) ∨ False := by
    refine Forest.mem_labels_of_updated Forest.shallow_actor ?_ named
    intro target inTarget
    rw [Forest.labels_cons] at inTarget ⊢
    exact Or.inl inTarget
  exact unnamed.owners owner (old.resolve_right not_false)

theorem exchange (unnamed : store.Unnamed actor) {one two : ActorId} (first : one ≠ actor)
    (second : two ≠ actor) : (store.exchange one two).Unnamed actor := by
  unfold Programs.exchange
  split
  · exact unnamed
  · refine (unnamed.withForest first ?_).withForest second ?_
    · exact fun named => first (Forest.owner_of_mem_relabel _ named).symm
    · exact fun named => second (Forest.owner_of_mem_relabel _ named).symm

theorem erase (unnamed : store.Unnamed actor) (other : ActorId) :
    (store.erase other).Unnamed actor where
  row := by
    intro named
    rcases List.mem_map.1 named with ⟨row, member, rfl⟩
    exact unnamed.row (List.mem_map_of_mem (List.mem_of_mem_filter member))
  owners := by
    intro someone
    rw [forest_erase]
    split
    · exact List.not_mem_nil
    · exact unnamed.owners someone

/-- Where blocks name those who have them, an actor whose program is forgotten
is not named any more. -/
theorem erased (placed : forall other, Forest.Placed other (store.forest other))
    (actor : ActorId) : (store.erase actor).Unnamed actor where
  row := by
    intro named
    rcases List.mem_map.1 named with ⟨row, member, rfl⟩
    simpa using (List.mem_filter.1 member).2
  owners := by
    intro other
    rw [forest_erase]
    split
    · exact List.not_mem_nil
    · rename_i different
      intro named
      rcases List.mem_map.1 named with ⟨node, member, same⟩
      exact different (((placed other).owned node member).symm.trans same)

end Unnamed

end Programs

end SpriteStage
