import SpriteStage.Proofs.Block.Placement

namespace SpriteStage

/-!
# Pruned forests

Taking a block out of a forest searches level by level and rebuilds the way
to the block.  Where identifiers are distinct, what it leaves is the forest
without the blocks of that name, wherever they are.  Pruning is a map over the
forest and needs no search, so facts about it are plain inductions.
-/

mutual

/-- The tree without the blocks of an identifier below its root. -/
def Block.prune (wanted : BlockId) : Block -> Block
  | ⟨id, kind, actor, parent, children⟩ =>
    ⟨id, kind, actor, parent, Forest.prune wanted children⟩

def Forest.prune (wanted : BlockId) : Forest -> Forest
  | [] => []
  | node :: rest =>
    if node.id = wanted then Forest.prune wanted rest
    else node.prune wanted :: Forest.prune wanted rest

end

theorem Block.prune_eq (wanted : BlockId) (node : Block) :
    node.prune wanted = { node with children := Forest.prune wanted node.children } := by
  cases node
  rfl

namespace Forest

variable {wanted : BlockId}

@[simp] theorem prune_nil (wanted : BlockId) : prune wanted [] = [] := rfl

theorem prune_cons_of_eq {node : Block} (rest : Forest) (same : node.id = wanted) :
    prune wanted (node :: rest) = prune wanted rest := by
  rw [prune, if_pos same]

theorem prune_cons_of_ne {node : Block} (rest : Forest) (different : node.id ≠ wanted) :
    prune wanted (node :: rest) =
      { node with children := prune wanted node.children } :: prune wanted rest := by
  rw [prune, if_neg different, Block.prune_eq]

theorem prune_of_notMem {forest : Forest} (absent : wanted ∉ ids forest) :
    prune wanted forest = forest := by
  induction forest using Forest.induction with
  | nil => rfl
  | cons id kind actor parent children rest below after =>
    simp only [ids_cons, List.mem_cons, List.mem_append, not_or] at absent
    rw [prune_cons_of_ne rest (Ne.symm absent.1), below absent.2.1, after absent.2.2]

/-! ## Pruning and searching -/

/-- A search looks at the root of the first tree before everything else. -/
theorem find?_cons_of_eq {node : Block} (rest : Forest) (same : node.id = wanted) :
    find? wanted (node :: rest) = some node := by
  rw [find?_eq_find?_nodes, nodes_cons, List.find?_cons_of_pos (by simpa using same)]

theorem find?_cons_of_ne {node : Block} (rest : Forest) (different : node.id ≠ wanted) :
    find? wanted (node :: rest) = (find? wanted node.children).or (find? wanted rest) := by
  simp [find?_eq_find?_nodes, different]

theorem pick?_some {forest left : Forest} {taken : Block} (distinct : (ids forest).Nodup)
    (picked : pick? wanted forest = some (taken, left)) :
    find? wanted forest = some taken ∧ prune wanted forest = left := by
  induction forest generalizing left with
  | nil => cases picked
  | cons node rest step =>
    have apart := nodup_ids_cons distinct
    rw [pick?] at picked
    by_cases same : node.id = wanted
    · rw [if_pos same, Option.some.injEq, Prod.mk.injEq] at picked
      rw [find?_cons_of_eq rest same, prune_cons_of_eq rest same,
        prune_of_notMem (same ▸ apart.2.1)]
      exact ⟨congrArg some picked.1, picked.2⟩
    · rw [if_neg same, Option.map_eq_some_iff] at picked
      rcases picked with ⟨⟨found, others⟩, pickedRest, ⟨rfl, rfl⟩⟩
      have later := step apart.2.2.2.1 pickedRest
      have notInside : wanted ∉ ids node.children := fun inside =>
        apart.2.2.2.2 wanted inside (mem_ids_of_find? later.1)
      rw [find?_cons_of_ne rest same, find?_eq_none_iff.2 notInside, Option.none_or,
        prune_cons_of_ne rest same, prune_of_notMem notInside, later.2]
      cases node
      exact ⟨later.1, rfl⟩

theorem pick?_cons_eq_none {node : Block} {rest : Forest}
    (missed : pick? wanted (node :: rest) = none) :
    node.id ≠ wanted ∧ pick? wanted rest = none := by
  rw [pick?] at missed
  by_cases same : node.id = wanted
  · rw [if_pos same] at missed
    cases missed
  · rw [if_neg same, Option.map_eq_none_iff] at missed
    exact ⟨same, missed⟩

theorem takeBelow?_eq_take? (node : Block) :
    node.takeBelow? wanted = (take? wanted node.children).map fun found =>
      (found.1, { node with children := found.2 }) := by
  cases node with
  | mk id kind actor parent children =>
    rw [Block.takeBelow?, take?]
    cases pick? wanted children <;> rfl

/-- Where identifiers are distinct, taking a block out finds the block that a
search finds and leaves the pruned forest. -/
theorem take?_eq_find? {forest : Forest} (distinct : (ids forest).Nodup) :
    take? wanted forest =
      (find? wanted forest).map fun found => (found, prune wanted forest) := by
  induction forest using Forest.induction with
  | nil => rfl
  | cons id kind actor parent children rest below after =>
    have apart := nodup_ids_cons distinct
    rw [take?]
    cases picked : pick? wanted (⟨id, kind, actor, parent, children⟩ :: rest) with
    | some found =>
      have same := pick?_some distinct picked
      rw [same.1, same.2]
      rfl
    | none =>
      have missed := pick?_cons_eq_none picked
      have belowRest : takeBelow? wanted rest = take? wanted rest := by rw [take?, missed.2]
      dsimp only
      rw [takeBelow?, takeBelow?_eq_take?, below apart.2.2.1, find?_cons_of_ne rest missed.1,
        prune_cons_of_ne rest missed.1, belowRest, after apart.2.2.2.1]
      cases inside : find? wanted children with
      | some found =>
        have notAfter : wanted ∉ ids rest :=
          apart.2.2.2.2 wanted (mem_ids_of_find? inside)
        rw [prune_of_notMem notAfter]
        rfl
      | none =>
        rw [prune_of_notMem (find?_eq_none_iff.1 inside)]
        cases find? wanted rest <;> rfl

/-- A block that is found and the pruned forest share the blocks between them. -/
theorem kinds_perm_prune {forest : Forest} {found : Block} (distinct : (ids forest).Nodup)
    (hit : find? wanted forest = some found) :
    (kinds forest).Perm (kinds [found] ++ kinds (prune wanted forest)) := by
  induction forest using Forest.induction with
  | nil => cases hit
  | cons id kind actor parent children rest below after =>
    have apart := nodup_ids_cons distinct
    by_cases same : id = wanted
    · rw [find?_cons_of_eq rest same, Option.some.injEq] at hit
      rw [prune_cons_of_eq rest same, prune_of_notMem (same ▸ apart.2.1), ← hit, ← kinds_append]
      exact List.Perm.refl _
    · rw [find?_cons_of_ne rest same] at hit
      rw [prune_cons_of_ne rest same, kinds_cons ⟨id, kind, actor, parent, children⟩ rest,
        kinds_cons ⟨id, kind, actor, parent, prune wanted children⟩ (prune wanted rest)]
      dsimp only
      cases inside : find? wanted children with
      | some inner =>
        rw [inside, Option.some_or, Option.some.injEq] at hit
        subst hit
        have notAfter : wanted ∉ ids rest :=
          apart.2.2.2.2 wanted (mem_ids_of_find? inside)
        rw [prune_of_notMem notAfter]
        have moved := (below apart.2.2.1 inside).append_right (kinds rest)
        rw [List.append_assoc] at moved
        exact (moved.cons (id, kind)).trans List.perm_middle.symm
      | none =>
        rw [inside, Option.none_or] at hit
        rw [prune_of_notMem (find?_eq_none_iff.1 inside)]
        have moved := (after apart.2.2.2.1 hit).append_left ((id, kind) :: kinds children)
        refine moved.trans ?_
        change (((id, kind) :: kinds children) ++ (kinds [found] ++ kinds (prune wanted rest))).Perm
          (kinds [found] ++ (((id, kind) :: kinds children) ++ kinds (prune wanted rest)))
        rw [← List.append_assoc, ← List.append_assoc]
        exact List.perm_append_comm.append_right (kinds (prune wanted rest))

theorem ids_perm_prune {forest : Forest} {found : Block} (distinct : (ids forest).Nodup)
    (hit : find? wanted forest = some found) :
    (ids forest).Perm (found.ids ++ ids (prune wanted forest)) := by
  have shared := (kinds_perm_prune distinct hit).map Prod.fst
  rw [List.map_append, map_fst_kinds, map_fst_kinds, map_fst_kinds] at shared
  rwa [Block.ids_eq_forest]

theorem notMem_prune_of_mem {forest : Forest} {found : Block} {id : BlockId}
    (distinct : (ids forest).Nodup) (hit : find? wanted forest = some found)
    (member : id ∈ found.ids) : id ∉ ids (prune wanted forest) := by
  have split := (ids_perm_prune distinct hit).nodup_iff.1 distinct
  intro left
  exact (List.nodup_append.1 split).2.2 id member id left rfl

theorem nodup_ids_found {forest : Forest} {found : Block} (distinct : (ids forest).Nodup)
    (hit : find? wanted forest = some found) : found.ids.Nodup :=
  (List.nodup_append.1 ((ids_perm_prune distinct hit).nodup_iff.1 distinct)).1

theorem nodup_ids_prune {forest : Forest} {found : Block} (distinct : (ids forest).Nodup)
    (hit : find? wanted forest = some found) : (ids (prune wanted forest)).Nodup :=
  (List.nodup_append.1 ((ids_perm_prune distinct hit).nodup_iff.1 distinct)).2.1

theorem mem_ids_of_mem_prune {forest : Forest} {found : Block} {id : BlockId}
    (distinct : (ids forest).Nodup) (hit : find? wanted forest = some found)
    (member : id ∈ ids (prune wanted forest)) : id ∈ ids forest :=
  (ids_perm_prune distinct hit).mem_iff.2 (List.mem_append_right _ member)

/-- A block that is not taken out is found in the pruned forest, with its kind. -/
theorem exists_find?_prune {forest : Forest} {found target : Block} {above : BlockId}
    (distinct : (ids forest).Nodup) (hit : find? wanted forest = some found)
    (targetHit : find? above forest = some target) (outside : above ∉ found.ids) :
    Exists fun left => find? above (prune wanted forest) = some left ∧
      left.kind = target.kind := by
  apply exists_find?_of_mem_kinds (nodup_ids_prune distinct hit)
  have listed := (kinds_perm_prune distinct hit).mem_iff.1 (mem_kinds_of_find? targetHit)
  rcases List.mem_append.1 listed with inFound | left
  · exact absurd (mem_ids_of_mem_kinds inFound) (Block.ids_eq_forest found ▸ outside)
  · exact left

/-! ## What pruning keeps -/

theorem relabel_prune (owner : ActorId) (forest : Forest) :
    forall above : Option BlockId,
      relabel owner above (prune wanted forest) = prune wanted (relabel owner above forest) := by
  induction forest using Forest.induction with
  | nil => exact fun _ => rfl
  | cons id kind actor parent children rest below after =>
    intro above
    rw [relabel_cons, Block.relabel_eq]
    by_cases same : id = wanted
    · rw [prune_cons_of_eq rest same, prune_cons_of_eq _ same, after]
    · rw [prune_cons_of_ne rest same, prune_cons_of_ne _ same, relabel_cons, Block.relabel_eq,
        below, after]

theorem placed_prune {owner : ActorId} {forest : Forest} (placed : Placed owner forest) :
    Placed owner (prune wanted forest) := by
  rw [placed_iff_relabel] at placed ⊢
  rw [relabel_prune, placed]

theorem nested_prune {forest : Forest} (nested : Nested forest) :
    Nested (prune wanted forest) := by
  induction forest using Forest.induction with
  | nil => exact nested
  | cons id kind actor parent children rest below after =>
    rw [nested_cons] at nested
    by_cases same : id = wanted
    · rw [prune_cons_of_eq rest same]
      exact after nested.2.2
    · rw [prune_cons_of_ne rest same, nested_cons]
      refine ⟨?_, below nested.2.1, after nested.2.2⟩
      intro some
      apply nested.1
      rintro rfl
      exact some rfl

end Forest

end SpriteStage
