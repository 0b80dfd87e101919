import Mathlib.Algebra.Ring.Nat
import SpriteStage.Proofs.Programs.Arrival
import SpriteStage.Proofs.Programs.Exchange
import SpriteStage.Proofs.Progress.Lookup

namespace SpriteStage

/-!
# Counting blocks

The blocks of all programs can be counted in several ways: tree by tree, by
their identifiers, actor by actor, and by the entries that a run begins with.
In a sound store it is the same number.  An insertion adds the blocks of its
tree, a removal takes those of its tree away, an actor who leaves takes a
program along, and nothing else changes the number.
-/

theorem Block.count_eq_length_ids (node : Block) : node.count = node.ids.length := by
  rw [Block.ids_eq_forest, ← Forest.count_eq_length_ids]
  rfl

namespace Programs

variable {store next : Programs} {actor : ActorId} {id : BlockId} {node : Block}
  {parent : Option BlockId}

namespace Sound

theorem blockCount_insert (sound : store.Sound)
    (inserted : store.insert node parent actor = .ok next) :
    next.blockCount = store.blockCount + node.count := by
  have added := (sound.ids_insert inserted).length_eq
  rw [blockCount_eq_length_ids, blockCount_eq_length_ids, Block.count_eq_length_ids, added,
    List.length_append]

theorem blockCount_remove (sound : store.Sound) (removed : store.remove id = .ok (node, next)) :
    next.blockCount + node.count = store.blockCount := by
  have taken := (sound.ids_remove removed).length_eq
  rw [blockCount_eq_length_ids, blockCount_eq_length_ids, Block.count_eq_length_ids, taken,
    List.length_append]

theorem blockCount_adjust (sound : store.Sound) {name : String} {value : Parameter}
    (adjusted : store.adjust id name value = .ok next) : next.blockCount = store.blockCount := by
  rcases adjust_eq_ok adjusted with ⟨owner, node, kind, _, _, rfl⟩
  apply blockCount_congr
  rw [← List.perm_append_right_iff (Forest.ids (store.forest owner)),
    Forest.updated_eq_revise (sound.distinct owner)]
  have replaced := store.ids_withForest owner
    (Forest.revise id (fun node => node.withKind kind) (store.forest owner))
  rwa [Forest.ids_withKind id kind (sound.distinct owner)] at replaced

/-- Each block is in the program of one actor, so the programs can be counted
actor by actor. -/
theorem blockCount_eq_sum (sound : store.Sound) {owners : List ActorId} (once : owners.Nodup)
    (complete : forall actor, store.forest actor ≠ [] -> actor ∈ owners) :
    store.blockCount = (owners.map fun actor => Forest.count (store.forest actor)).sum := by
  let listed := owners.flatMap fun actor => Forest.ids (store.forest actor)
  have distinct : listed.Nodup := by
    rw [List.nodup_flatMap]
    refine ⟨fun actor _ => sound.distinct actor, ?_⟩
    exact once.imp fun different id inOne inTwo => different (sound.owner_unique inOne inTwo)
  have same : listed.Perm store.ids := by
    apply sound.perm_ids distinct
    intro id
    rw [List.mem_flatMap]
    constructor
    · rintro ⟨actor, _, member⟩
      exact ⟨actor, member⟩
    · rintro ⟨actor, member⟩
      exact ⟨actor, complete actor (Forest.ne_nil_of_mem_ids member), member⟩
  rw [blockCount_eq_length_ids, ← same.length_eq, List.length_flatMap]
  simp only [Forest.count_eq_length_ids]

/-- The blocks of an actor who leaves are those that are missing then. -/
theorem blockCount_erase (sound : store.Sound) (actor : ActorId) :
    (store.erase actor).blockCount + Forest.count (store.forest actor) = store.blockCount := by
  have apart : (store.erase actor).ids.Disjoint (Forest.ids (store.forest actor)) := by
    intro id left taken
    rcases mem_ids_iff.1 left with ⟨other, member⟩
    rw [forest_erase] at member
    split at member
    · exact List.not_mem_nil member
    · rename_i different
      exact different (sound.owner_unique member taken)
  have distinct := (sound.erase actor).unique.append (sound.distinct actor) apart
  have same : ((store.erase actor).ids ++ Forest.ids (store.forest actor)).Perm store.ids := by
    apply sound.perm_ids distinct
    intro id
    rw [List.mem_append, mem_ids_iff]
    simp only [forest_erase]
    constructor
    · rintro (⟨owner, member⟩ | member)
      · split at member
        · exact absurd member List.not_mem_nil
        · exact ⟨owner, member⟩
      · exact ⟨actor, member⟩
    · rintro ⟨owner, member⟩
      by_cases own : owner = actor
      · exact Or.inr (own ▸ member)
      · exact Or.inl ⟨owner, (if_neg own).symm ▸ member⟩
  rw [blockCount_eq_length_ids, blockCount_eq_length_ids, Forest.count_eq_length_ids,
    ← same.length_eq, List.length_append]

end Sound

end Programs

/-! ## The entries that a run begins with -/

namespace Progress

variable {progress : Progress} {actor : ActorId}

/-- Seeding a forest that has no entries yet makes one for each of its blocks. -/
theorem size_seed (forest : Forest) :
    forall progress : Progress, (Forest.ids forest).Nodup ->
      (forall id, id ∈ Forest.ids forest -> progress.get? actor id = none) ->
      (progress.seed actor forest).size = progress.size + Forest.count forest := by
  induction forest using Forest.induction with
  | nil => exact fun _ _ _ => rfl
  | cons id kind owner parent children rest below after =>
    intro progress distinct absent
    have apart := Forest.nodup_ids_cons distinct
    simp only [Forest.ids_cons, List.mem_cons, List.mem_append] at absent
    let rooted := progress.put actor id (Entry.fresh kind)
    have rootSize : rooted.size = progress.size + 1 :=
      Table.size_set_of_absent _ (absent id (Or.inl rfl))
    have childrenAbsent : forall other, other ∈ Forest.ids children ->
        rooted.get? actor other = none := by
      intro other member
      have different : other ≠ id := fun same => apart.1 (same ▸ member)
      rw [get?_put_of_ne _ _ (Or.inr different), absent other (Or.inr (Or.inl member))]
    have restAbsent : forall other, other ∈ Forest.ids rest ->
        (rooted.seed actor children).get? actor other = none := by
      intro other member
      have different : other ≠ id := fun same => apart.2.1 (same ▸ member)
      have outside : other ∉ Forest.ids children :=
        fun inside => apart.2.2.2.2 other inside member
      rw [get?_seed_of_notMem _ _ (Or.inr outside), get?_put_of_ne _ _ (Or.inr different),
        absent other (Or.inr (Or.inr member))]
    rw [seed_cons, after _ apart.2.2.2.1 restAbsent, below _ apart.2.2.1 childrenAbsent, rootSize,
      Forest.count, Block.count]
    omega

/-- Seeding the programs of several actors makes an entry for each block. -/
theorem size_foldl_seed (programs : List (ActorId × Forest)) :
    forall progress : Progress, (programs.map Prod.fst).Nodup ->
      (forall program, program ∈ programs -> (Forest.ids program.2).Nodup) ->
      (forall program, program ∈ programs -> forall id, progress.get? program.1 id = none) ->
      (programs.foldl (fun progress program => seed program.1 program.2 progress) progress).size =
        progress.size + (programs.map fun program => Forest.count program.2).sum := by
  induction programs with
  | nil => exact fun _ _ _ _ => rfl
  | cons program rest step =>
    intro progress once distinct absent
    rw [List.map_cons, List.nodup_cons] at once
    have restAbsent : forall other, other ∈ rest ->
        forall id, (progress.seed program.1 program.2).get? other.1 id = none := by
      intro other member id
      have different : other.1 ≠ program.1 :=
        fun same => once.1 (same ▸ List.mem_map_of_mem member)
      rw [get?_seed_of_notMem _ _ (Or.inl different),
        absent other (List.mem_cons_of_mem _ member)]
    have restDistinct : forall other, other ∈ rest -> (Forest.ids other.2).Nodup :=
      fun other member => distinct other (List.mem_cons_of_mem _ member)
    have ownSize : (progress.seed program.1 program.2).size =
        progress.size + Forest.count program.2 :=
      size_seed _ _ (distinct program List.mem_cons_self)
        fun id _ => absent program List.mem_cons_self id
    rw [List.foldl_cons, step _ once.2 restDistinct restAbsent, ownSize, List.map_cons,
      List.sum_cons, Nat.add_assoc]

end Progress

/-- A run of sound programs begins with an entry for each block. -/
theorem Programs.Sound.size_start {store : Programs} (sound : store.Sound) :
    (Progress.start store.programs).size = store.blockCount := by
  have kept : store.programs.Sublist store.forests.rows := List.filter_sublist
  have once : (store.programs.map Prod.fst).Nodup :=
    store.forests.distinct.sublist (kept.map Prod.fst)
  have own : forall program, program ∈ store.programs -> store.forest program.1 = program.2 :=
    fun program member => Programs.forest_of_mem (kept.subset member)
  have distinct : forall program, program ∈ store.programs -> (Forest.ids program.2).Nodup :=
    fun program member => own program member ▸ sound.distinct program.1
  have listed : forall actor, store.forest actor ≠ [] -> actor ∈ store.programs.map Prod.fst := by
    intro actor blocks
    have member : (actor, store.forest actor) ∈ store.programs := by
      rw [Programs.programs, List.mem_filter]
      refine ⟨Programs.row_of_ne_nil blocks, ?_⟩
      simpa using blocks
    exact List.mem_map_of_mem member
  have sameCounts : store.programs.map (fun program => Forest.count program.2) =
      (store.programs.map Prod.fst).map fun actor => Forest.count (store.forest actor) := by
    rw [List.map_map]
    exact List.map_congr_left fun program member =>
      congrArg Forest.count (own program member).symm
  rw [Progress.start, Progress.size_foldl_seed _ _ once distinct (fun _ _ _ => rfl), sameCounts,
    ← sound.blockCount_eq_sum once listed]
  exact Nat.zero_add _

end SpriteStage
