import SpriteStage.Proofs.Programs.Soundness

namespace SpriteStage

/-!
# The blocks of all programs

The identifiers of a store, program after program, tell how many blocks it
has and which.  Replacing one program exchanges the identifiers of the old one
for those of the new one, and an insertion adds those of the tree.
-/

theorem Forest.count_eq_length_ids (forest : Forest) : count forest = (ids forest).length := by
  induction forest using Forest.induction with
  | nil => rfl
  | cons id kind actor parent children rest below after =>
    rw [count, Block.count, below, after, ids_cons, List.length_cons, List.length_append]
    dsimp only
    omega

theorem Forest.count_append (first second : Forest) :
    count (first ++ second) = count first + count second := by
  rw [count_eq_length_ids, count_eq_length_ids, count_eq_length_ids, ids_append, List.length_append]

namespace Programs

variable {store next : Programs} {actor : ActorId} {id : BlockId}

theorem blockCount_eq_length_ids (store : Programs) : store.blockCount = store.ids.length := by
  rw [blockCount, ids]
  induction store.forests.rows with
  | nil => rfl
  | cons row rest step =>
    rw [List.foldr_cons, step, Forest.count_eq_length_ids, List.flatMap_cons, List.length_append]

theorem blockCount_congr (same : store.ids.Perm next.ids) : store.blockCount = next.blockCount := by
  rw [blockCount_eq_length_ids, blockCount_eq_length_ids, same.length_eq]

theorem mem_ids_iff :
    id ∈ store.ids <-> Exists fun actor => id ∈ Forest.ids (store.forest actor) := by
  rw [ids, List.mem_flatMap]
  constructor
  · rintro ⟨row, listed, member⟩
    exact ⟨row.1, (forest_of_mem listed).symm ▸ member⟩
  · rintro ⟨actor, member⟩
    exact ⟨_, row_of_mem_ids member, member⟩

/-- A list that has every placed identifier once is the inventory up to order. -/
theorem Sound.perm_ids (sound : store.Sound) {listed : List BlockId} (distinct : listed.Nodup)
    (same : forall id, id ∈ listed <->
      Exists fun actor => id ∈ Forest.ids (store.forest actor)) : listed.Perm store.ids := by
  rw [List.perm_ext_iff_of_nodup distinct sound.unique]
  intro id
  rw [same, mem_ids_iff]

/-- Replacing one program exchanges its identifiers for those of the new one. -/
theorem ids_withForest (store : Programs) (actor : ActorId) (forest : Forest) :
    ((store.withForest actor forest).ids ++ Forest.ids (store.forest actor)).Perm
      (store.ids ++ Forest.ids forest) := by
  simp only [ids, Programs.forest, withForest, Table.set, Table.get?]
  induction store.forests.rows with
  | nil =>
    rw [Table.replace, List.flatMap_singleton]
    exact List.Perm.of_eq (List.append_nil _)
  | cons row rest step =>
    rcases row with ⟨owner, old⟩
    rw [Table.replace, Table.lookup]
    by_cases same : owner = actor
    · rw [if_pos same, if_pos same, List.flatMap_cons, List.flatMap_cons, Option.getD_some]
      let others := rest.flatMap fun row => Forest.ids row.2
      calc (Forest.ids forest ++ others ++ Forest.ids old).Perm
            (Forest.ids old ++ (Forest.ids forest ++ others)) := List.perm_append_comm
        List.Perm _ (Forest.ids old ++ (others ++ Forest.ids forest)) :=
          List.perm_append_comm.append_left _
        _ = Forest.ids old ++ others ++ Forest.ids forest := (List.append_assoc ..).symm
    · rw [if_neg same, if_neg same, List.flatMap_cons, List.flatMap_cons, List.append_assoc,
        List.append_assoc]
      exact step.append_left _

/-- An insertion adds the identifiers of the tree. -/
theorem Sound.ids_insert (sound : store.Sound) {node : Block} {parent : Option BlockId}
    (inserted : store.insert node parent actor = .ok next) :
    next.ids.Perm (store.ids ++ node.ids) := by
  rcases insert_eq_ok_iff.1 inserted with ⟨_, admitted, rfl⟩
  rw [← List.perm_append_right_iff (Forest.ids (store.forest actor)), List.append_assoc]
  refine (store.ids_withForest actor _).trans (List.Perm.append_left _ ?_)
  exact (sound.ids_grown node admitted).trans List.perm_append_comm

end Programs

end SpriteStage
