import SpriteStage.Programs
import SpriteStage.Proofs.Block.Pruning

namespace SpriteStage

/-!
# Revised forests

Changing a block of a forest searches for the first block of a name.  Where
identifiers are distinct, the result is the forest in which the blocks of that
name are changed, wherever they are.  Revising is a map over the forest.  The
two changes that the stage makes are adopting a child and setting the kind.
-/

mutual

/-- The tree in which the blocks of an identifier are changed. -/
def Block.revise (wanted : BlockId) (change : Block -> Block) : Block -> Block
  | ⟨id, kind, actor, parent, children⟩ =>
    if id = wanted then change ⟨id, kind, actor, parent, children⟩
    else ⟨id, kind, actor, parent, Forest.revise wanted change children⟩

def Forest.revise (wanted : BlockId) (change : Block -> Block) : Forest -> Forest
  | [] => []
  | node :: rest => node.revise wanted change :: Forest.revise wanted change rest

end

namespace Forest

variable {wanted : BlockId} {change : Block -> Block}

theorem revise_cons_of_eq {node : Block} (rest : Forest) (same : node.id = wanted) :
    revise wanted change (node :: rest) = change node :: revise wanted change rest := by
  cases node
  rw [revise, Block.revise, if_pos same]

theorem revise_cons_of_ne {node : Block} (rest : Forest) (different : node.id ≠ wanted) :
    revise wanted change (node :: rest) =
      { node with children := revise wanted change node.children } ::
        revise wanted change rest := by
  cases node
  rw [revise, Block.revise, if_neg different]

theorem revise_of_notMem {forest : Forest} (absent : wanted ∉ ids forest) :
    revise wanted change forest = forest := by
  induction forest using Forest.induction with
  | nil => rfl
  | cons id kind actor parent children rest below after =>
    simp only [ids_cons, List.mem_cons, List.mem_append, not_or] at absent
    rw [revise_cons_of_ne rest (Ne.symm absent.1), below absent.2.1, after absent.2.2]

theorem modify?_of_notMem {forest : Forest} (absent : wanted ∉ ids forest) :
    modify? wanted change forest = none := by
  induction forest using Forest.induction with
  | nil => rfl
  | cons id kind actor parent children rest below after =>
    simp only [ids_cons, List.mem_cons, List.mem_append, not_or] at absent
    rw [modify?, Block.modify?, if_neg (Ne.symm absent.1), below absent.2.1, after absent.2.2]
    rfl

/-- Where identifiers are distinct, changing the first block of a name is
revising the forest. -/
theorem modify?_eq_revise {forest : Forest} (distinct : (ids forest).Nodup)
    (member : wanted ∈ ids forest) :
    modify? wanted change forest = some (revise wanted change forest) := by
  induction forest using Forest.induction with
  | nil => exact absurd member List.not_mem_nil
  | cons id kind actor parent children rest below after =>
    have apart := nodup_ids_cons distinct
    rw [modify?, Block.modify?]
    by_cases same : id = wanted
    · rw [if_pos same, revise_cons_of_eq rest same, revise_of_notMem (same ▸ apart.2.1)]
    · rw [if_neg same, revise_cons_of_ne rest same]
      rw [ids_cons, List.mem_cons, List.mem_append] at member
      rcases member with equal | inChildren | inRest
      · exact absurd equal.symm same
      · rw [below apart.2.2.1 inChildren,
          revise_of_notMem (apart.2.2.2.2 wanted inChildren)]
        rfl
      · have notInside : wanted ∉ ids children := fun inside =>
          apart.2.2.2.2 wanted inside inRest
        rw [modify?_of_notMem notInside, after apart.2.2.2.1 inRest,
          revise_of_notMem notInside]
        rfl

theorem updated_eq_revise {forest : Forest} (distinct : (ids forest).Nodup) :
    Programs.updated forest wanted change = revise wanted change forest := by
  rw [Programs.updated]
  by_cases member : wanted ∈ ids forest
  · rw [modify?_eq_revise distinct member, Option.getD_some]
  · rw [modify?_of_notMem member, revise_of_notMem member, Option.getD_none]

/-! ## What a revision keeps -/

theorem relabel_revise {owner : ActorId} (changed : Block -> Block)
    (commutes : forall node above, node.id = wanted ->
      (change node).relabel owner above = changed (node.relabel owner above))
    (forest : Forest) :
    forall above : Option BlockId,
      relabel owner above (revise wanted change forest) =
        revise wanted changed (relabel owner above forest) := by
  induction forest using Forest.induction with
  | nil => exact fun _ => rfl
  | cons id kind actor parent children rest below after =>
    intro above
    by_cases same : id = wanted
    · rw [revise_cons_of_eq rest same, relabel_cons, relabel_cons, commutes _ _ same,
        revise_cons_of_eq _ (by rw [Block.relabel_eq]; exact same), after]
    · rw [revise_cons_of_ne rest same, relabel_cons, relabel_cons, Block.relabel_eq,
        Block.relabel_eq, revise_cons_of_ne _ same, below, after]

theorem nested_revise {forest : Forest}
    (changed : forall node, node ∈ nodes forest -> node.id = wanted -> Nested [node] ->
      Nested [change node])
    (nested : Nested forest) : Nested (revise wanted change forest) := by
  induction forest using Forest.induction with
  | nil => exact nested
  | cons id kind actor parent children rest below after =>
    simp only [nodes_cons, List.mem_cons, List.mem_append] at changed
    have afterward := after (fun node member => changed node (Or.inr (Or.inr member)))
      (nested_cons.1 nested).2.2
    by_cases same : id = wanted
    · rw [revise_cons_of_eq rest same]
      have split : Nested ([⟨id, kind, actor, parent, children⟩] ++ rest) := nested
      have own := changed _ (Or.inl rfl) same (nested_append.1 split).1
      exact nested_append.2 ⟨own, afterward⟩
    · rw [nested_cons] at nested
      rw [revise_cons_of_ne rest same, nested_cons]
      refine ⟨?_, ?_, afterward⟩
      · intro some
        apply nested.1
        rintro rfl
        exact some rfl
      · exact below (fun node member => changed node (Or.inr (Or.inl member))) nested.2.1

/-! ## Adopting a child -/

/-- The blocks of a tree that a block of the forest adopts join those of the
forest. -/
theorem kinds_perm_adopt {forest : Forest} (child : Block) (distinct : (ids forest).Nodup)
    (member : wanted ∈ ids forest) :
    (kinds (revise wanted (fun node => node.adopt child) forest)).Perm
      (kinds forest ++ kinds [child]) := by
  induction forest using Forest.induction with
  | nil => exact absurd member List.not_mem_nil
  | cons id kind actor parent children rest below after =>
    have apart := nodup_ids_cons distinct
    have root := kinds_cons ⟨id, kind, actor, parent, children⟩ rest
    by_cases same : id = wanted
    · rw [revise_cons_of_eq rest same, revise_of_notMem (same ▸ apart.2.1), root,
        kinds_cons (Block.adopt _ child), Block.adopt, kinds_append]
      simp only [List.append_assoc, List.cons_append]
      exact (List.perm_append_comm.append_left (kinds children)).cons (id, kind)
    · rw [revise_cons_of_ne rest same, root, kinds_cons ⟨id, kind, actor, parent, _⟩]
      dsimp only
      rw [ids_cons, List.mem_cons, List.mem_append] at member
      rcases member with equal | inChildren | inRest
      · exact absurd equal.symm same
      · rw [revise_of_notMem (apart.2.2.2.2 wanted inChildren)]
        have joined := (below apart.2.2.1 inChildren).append_right (kinds rest)
        simp only [List.append_assoc, List.cons_append] at joined ⊢
        exact (joined.trans (List.perm_append_comm.append_left (kinds children))).cons (id, kind)
      · have notInside : wanted ∉ ids children := fun inside =>
          apart.2.2.2.2 wanted inside inRest
        rw [revise_of_notMem notInside]
        have joined := (after apart.2.2.2.1 inRest).append_left (kinds children)
        simp only [List.append_assoc, List.cons_append] at joined ⊢
        exact joined.cons (id, kind)

theorem find?_adopt {forest : Forest} {child : Block} (distinct : (ids forest).Nodup)
    (member : wanted ∈ ids forest) (absent : child.id ∉ ids forest) :
    find? child.id (revise wanted (fun node => node.adopt child) forest) = some child := by
  induction forest using Forest.induction with
  | nil => exact absurd member List.not_mem_nil
  | cons id kind actor parent children rest below after =>
    have apart := nodup_ids_cons distinct
    simp only [ids_cons, List.mem_cons, List.mem_append, not_or] at absent
    rcases absent with ⟨notRoot, notChildren, notRest⟩
    have missing := find?_eq_none_iff.2 notChildren
    by_cases same : id = wanted
    · have last : find? child.id [child] = some child := find?_cons_of_eq [] rfl
      rw [revise_cons_of_eq rest same, find?_cons_of_ne _ (Ne.symm notRoot), Block.adopt,
        find?_append, missing, last]
      rfl
    · rw [revise_cons_of_ne rest same, find?_cons_of_ne _ (Ne.symm notRoot)]
      dsimp only
      rw [ids_cons, List.mem_cons, List.mem_append] at member
      rcases member with equal | inChildren | inRest
      · exact absurd equal.symm same
      · rw [below apart.2.2.1 inChildren notChildren]
        rfl
      · have notInside : wanted ∉ ids children := fun inside =>
          apart.2.2.2.2 wanted inside inRest
        rw [revise_of_notMem notInside, missing, after apart.2.2.2.1 inRest notRest]
        rfl

theorem placed_adopt {owner : ActorId} {forest : Forest} {child : Block}
    (placed : Placed owner forest) :
    Placed owner (revise wanted (fun node => node.adopt (child.relabel owner (some wanted)))
      forest) := by
  rw [placed_iff_relabel] at placed ⊢
  have commutes : forall (node : Block) (above : Option BlockId), node.id = wanted ->
      (node.adopt (child.relabel owner (some wanted))).relabel owner above =
        (node.relabel owner above).adopt (child.relabel owner (some wanted)) := by
    intro node above same
    have again := relabel_relabel owner owner (some wanted) (some wanted) [child]
    rw [Block.relabel_eq owner above node, Block.relabel_eq, same]
    simp only [Block.adopt, same, relabel_append]
    exact congrArg (fun last => Block.mk wanted node.kind owner above
      (relabel owner (some wanted) node.children ++ last)) again
  rw [relabel_revise (fun node => node.adopt (child.relabel owner (some wanted))) commutes, placed]

theorem nested_adopt {forest : Forest} {child : Block} (nested : Nested forest)
    (childNested : Nested [child])
    (holds : forall node, node ∈ nodes forest -> node.id = wanted ->
      node.kind.holdsBlocks = true) :
    Nested (revise wanted (fun node => node.adopt child) forest) := by
  apply nested_revise _ nested
  intro node member same inner
  rw [nested_cons] at inner
  rw [nested_cons]
  refine ⟨fun _ => holds node member same, ?_, nested_nil⟩
  exact nested_append.2 ⟨inner.2.1, childNested⟩

/-! ## Setting a kind -/

theorem kinds_withKind {forest : Forest} (kind : Kind) (distinct : (ids forest).Nodup) :
    kinds (revise wanted (fun node => node.withKind kind) forest) =
      (kinds forest).map fun pair => (pair.1, if pair.1 = wanted then kind else pair.2) := by
  have untouched : forall other : Forest, wanted ∉ ids other ->
      (kinds other).map (fun pair => (pair.1, if pair.1 = wanted then kind else pair.2)) =
        kinds other := by
    intro other absent
    conv_rhs => rw [← List.map_id (kinds other)]
    apply List.map_congr_left
    rintro ⟨id, old⟩ listed
    have different : id ≠ wanted := fun same => absent (same ▸ mem_ids_of_mem_kinds listed)
    simp only [if_neg different, id_eq]
  induction forest using Forest.induction with
  | nil => rfl
  | cons id old actor parent children rest below after =>
    have apart := nodup_ids_cons distinct
    by_cases same : id = wanted
    · rw [revise_cons_of_eq rest same, revise_of_notMem (same ▸ apart.2.1), kinds_cons, kinds_cons,
        List.map_cons, List.map_append, untouched children (same ▸ apart.1),
        untouched rest (same ▸ apart.2.1)]
      simp only [Block.withKind, if_pos same]
    · rw [revise_cons_of_ne rest same, kinds_cons, kinds_cons, List.map_cons, List.map_append,
        below apart.2.2.1, after apart.2.2.2.1]
      simp only [if_neg same]

theorem ids_withKind {forest : Forest} (wanted : BlockId) (kind : Kind)
    (distinct : (ids forest).Nodup) :
    ids (revise wanted (fun node => node.withKind kind) forest) = ids forest := by
  rw [← map_fst_kinds, kinds_withKind kind distinct, List.map_map, ← map_fst_kinds]
  rfl

theorem placed_withKind {owner : ActorId} {forest : Forest} (kind : Kind)
    (placed : Placed owner forest) :
    Placed owner (revise wanted (fun node => node.withKind kind) forest) := by
  rw [placed_iff_relabel] at placed ⊢
  have commutes : forall (node : Block) (above : Option BlockId), node.id = wanted ->
      (node.withKind kind).relabel owner above = (node.relabel owner above).withKind kind := by
    intro node above _
    rw [Block.withKind, Block.relabel_eq, Block.relabel_eq, Block.withKind]
  rw [relabel_revise (fun node => node.withKind kind) commutes, placed]

theorem nested_withKind {forest : Forest} {kind : Kind} (nested : Nested forest)
    (holds : forall node, node ∈ nodes forest -> node.id = wanted ->
      kind.holdsBlocks = node.kind.holdsBlocks) :
    Nested (revise wanted (fun node => node.withKind kind) forest) := by
  apply nested_revise _ nested
  intro node member same inner
  rw [nested_cons] at inner ⊢
  refine ⟨?_, inner.2⟩
  intro some
  exact (holds node member same).trans (inner.1 some)

end Forest

end SpriteStage
