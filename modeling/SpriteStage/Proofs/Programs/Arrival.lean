import SpriteStage.Proofs.Block.Extension
import SpriteStage.Proofs.Programs.Inventory

namespace SpriteStage

/-!
# Trees that come to a program

A tree that is inserted stands at the end of its destination.  Nothing else
happens: take it out again, and every program is what it was before.  So the
store has just the blocks of the tree more than it had.
-/

namespace Programs

/-- Whether a tree has come to the end of a place in the program of an actor,
and has done nothing else. -/
structure Lands (tree : Block) (actor : ActorId) (parent : Option BlockId)
    (without after : Programs) : Prop where
  owned : tree.actor = actor
  below : tree.parent = parent
  /-- The sequence that the tree is the last of was there without it. -/
  last : Exists fun earlier =>
    Forest.sequence? parent (without.forest actor) = some earlier ∧
      Forest.sequence? parent (after.forest actor) = some (earlier ++ [tree])
  /-- Taking the tree out leaves the programs that were there without it. -/
  same : Exists fun left => after.remove tree.id = .ok (tree, left) ∧
    forall other, left.forest other = without.forest other

variable {store next without after : Programs} {actor : ActorId} {id : BlockId}
  {node tree : Block} {parent : Option BlockId}

theorem Admits.exists_sequence (admitted : store.Admits parent actor) :
    Exists fun earlier => Forest.sequence? parent (store.forest actor) = some earlier := by
  cases parent with
  | none => exact ⟨_, rfl⟩
  | some above =>
    rcases admitted above rfl with ⟨target, found, _⟩
    exact ⟨target.children, by rw [Forest.sequence?, found]; rfl⟩

namespace Sound

/-- In a sound store a tree comes to the end of its destination. -/
theorem grown_eq_extend (sound : store.Sound) (node : Block) (parent : Option BlockId)
    (actor : ActorId) :
    store.grown node parent actor =
      Forest.extend parent [node.relabel actor parent] (store.forest actor) := by
  cases parent with
  | none => rfl
  | some above => exact Forest.updated_eq_revise (sound.distinct actor)

/-- No identifier is used twice after a tree without repetitions is inserted. -/
theorem unique_insert (sound : store.Sound) (distinct : node.ids.Nodup)
    (inserted : store.insert node parent actor = .ok next) : next.ids.Nodup := by
  have unplaced := (insert_eq_ok_iff.1 inserted).1
  have disjoint : store.ids.Disjoint node.ids := by
    intro id old new
    rcases mem_ids_iff.1 old with ⟨other, member⟩
    exact unplaced id new other member
  exact (sound.ids_insert inserted).nodup_iff.2 (sound.unique.append distinct disjoint)

/-- An insertion into a sound store does nothing but let the tree come to the
end of its destination. -/
theorem lands (sound : store.Sound) (distinct : node.ids.Nodup)
    (inserted : store.insert node parent actor = .ok next) :
    Lands (node.relabel actor parent) actor parent store next := by
  have uniqueAfter := sound.unique_insert distinct inserted
  rcases insert_eq_ok_iff.1 inserted with ⟨unplaced, admitted, rfl⟩
  have relabelled := Block.relabel_eq actor parent node
  have own : (node.relabel actor parent).id = node.id := by
    rw [relabelled]
  have member : node.id ∈ node.ids := by
    rw [Block.ids_eq]
    exact List.mem_cons_self
  have absent : node.id ∉ Forest.ids (store.forest actor) := unplaced node.id member actor
  have grown := sound.grown_eq_extend node parent actor
  refine ⟨?_, ?_, ?_, ?_⟩
  · rw [relabelled]
  · rw [relabelled]
  · rcases admitted.exists_sequence with ⟨earlier, there⟩
    refine ⟨earlier, there, ?_⟩
    rw [forest_withForest_self, grown, Forest.sequence?_extend, there]
    rfl
  · refine ⟨_, (remove_eq_ok_iff uniqueAfter).2 ⟨actor, ?_, rfl⟩, ?_⟩
    · rw [forest_withForest_self, own]
      exact sound.find?_grown admitted absent
    · intro other
      rw [forest_withForest, forest_withForest_self]
      split
      · rename_i same
        rw [same, grown, own, Forest.prune_extend own absent]
      · rename_i different
        rw [forest_withForest, if_neg different]

/-- A removal takes the identifiers of the tree away. -/
theorem ids_remove (sound : store.Sound) (removed : store.remove id = .ok (node, next)) :
    store.ids.Perm (next.ids ++ node.ids) := by
  rcases (remove_eq_ok_iff sound.unique).1 removed with ⟨owner, found, rfl⟩
  let left := Forest.prune id (store.forest owner)
  have taken : (Forest.ids (store.forest owner)).Perm (node.ids ++ Forest.ids left) :=
    Forest.ids_perm_prune (sound.distinct owner) found
  rw [← List.perm_append_right_iff (Forest.ids left), List.append_assoc]
  exact (store.ids_withForest owner left).symm.trans (taken.append_left _)

/-- Sound stores with the same programs have the same blocks. -/
theorem ids_perm (sound : store.Sound) (soundToo : next.Sound)
    (same : forall actor, store.forest actor = next.forest actor) : store.ids.Perm next.ids := by
  apply soundToo.perm_ids sound.unique
  intro id
  rw [mem_ids_iff]
  simp only [same]

end Sound

/-- A tree that has come to a place adds its blocks to those without it. -/
theorem Lands.blockCount (lands : Lands tree actor parent without after) (sound : without.Sound)
    (soundAfter : after.Sound) :
    after.blockCount = without.blockCount + tree.ids.length := by
  rcases lands.same with ⟨left, removed, same⟩
  have added := (soundAfter.ids_remove removed).length_eq
  have others := ((soundAfter.remove removed).ids_perm sound same).length_eq
  rw [blockCount_eq_length_ids, blockCount_eq_length_ids, added, List.length_append, others]

end Programs

end SpriteStage
