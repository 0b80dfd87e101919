import SpriteStage.Proofs.Block.Pruning

namespace SpriteStage

/-!
# Forests that change hands

Relabelling writes the owner and the parent of every block.  The blocks of a
placed forest name their parents already, so of a tree that is handed to
another actor only the owners change, and the parent of its root.
-/

mutual

/-- The tree with another owner in every block, and nothing else changed. -/
def Block.ownedBy (owner : ActorId) : Block -> Block
  | ⟨id, kind, _, parent, children⟩ =>
    ⟨id, kind, owner, parent, Forest.ownedBy owner children⟩

def Forest.ownedBy (owner : ActorId) : Forest -> Forest
  | [] => []
  | node :: rest => node.ownedBy owner :: Forest.ownedBy owner rest

end

theorem Block.ownedBy_eq (owner : ActorId) (node : Block) :
    node.ownedBy owner =
      { node with actor := owner, children := Forest.ownedBy owner node.children } := by
  cases node
  rfl

theorem Block.id_ownedBy (owner : ActorId) (node : Block) : (node.ownedBy owner).id = node.id := by
  rw [ownedBy_eq]

namespace Forest

variable {owner other : ActorId} {forest : Forest} {node : Block}

@[simp] theorem ownedBy_cons (owner : ActorId) (node : Block) (rest : Forest) :
    ownedBy owner (node :: rest) = node.ownedBy owner :: ownedBy owner rest := rfl

theorem ids_ownedBy (owner : ActorId) (forest : Forest) :
    ids (ownedBy owner forest) = ids forest := by
  induction forest using Forest.induction with
  | nil => rfl
  | cons id kind actor parent children rest below after =>
    rw [ownedBy_cons, Block.ownedBy_eq, ids_cons, ids_cons, below, after]

theorem find?_ownedBy (wanted : BlockId) (owner : ActorId) (forest : Forest) :
    find? wanted (ownedBy owner forest) = (find? wanted forest).map (Block.ownedBy owner) := by
  induction forest using Forest.induction with
  | nil => rfl
  | cons id kind actor parent children rest below after =>
    by_cases same : id = wanted
    · rw [ownedBy_cons, find?_cons_of_eq rest same,
        find?_cons_of_eq _ ((Block.id_ownedBy owner _).trans same)]
      rfl
    · have different : (Block.ownedBy owner ⟨id, kind, actor, parent, children⟩).id ≠ wanted := by
        rwa [Block.id_ownedBy]
      rw [ownedBy_cons, find?_cons_of_ne rest same, find?_cons_of_ne _ different, Block.ownedBy_eq,
        below, after, Option.map_or]

/-- Where every block names its parent, relabelling changes the owners alone. -/
theorem relabel_eq_ownedBy :
    forall above : Option BlockId, relabel other above forest = forest ->
      relabel owner above forest = ownedBy owner forest := by
  induction forest using Forest.induction with
  | nil => exact fun _ _ => rfl
  | cons id kind actor parent children rest below after =>
    intro above labelled
    rw [relabel_cons, Block.relabel_eq, List.cons.injEq, Block.mk.injEq] at labelled
    rcases labelled with ⟨⟨_, _, _, sameParent, labelledBelow⟩, labelledAfter⟩
    rw [relabel_cons, Block.relabel_eq, ownedBy_cons, Block.ownedBy_eq, below _ labelledBelow,
      after above labelledAfter]
    dsimp only
    rw [sameParent]

/-- A placed forest that is handed to an actor keeps everything but its owner. -/
theorem Placed.relabel_eq_ownedBy (placed : Placed other forest) :
    relabel owner none forest = ownedBy owner forest :=
  Forest.relabel_eq_ownedBy none (placed_iff_relabel.1 placed)

theorem Placed.ownedBy_eq_self (placed : Placed owner forest) : ownedBy owner forest = forest := by
  rw [← placed.relabel_eq_ownedBy]
  exact placed_iff_relabel.1 placed

/-- Of several owners the last one counts. -/
theorem ownedBy_ownedBy (forest : Forest) :
    ownedBy owner (ownedBy other forest) = ownedBy owner forest := by
  induction forest using Forest.induction with
  | nil => rfl
  | cons id kind actor parent children rest below after =>
    simp only [ownedBy_cons, Block.ownedBy_eq, below, after]

/-- A tree of a placed forest that is handed to an actor keeps everything but
its owner and the parent of its root. -/
theorem Placed.relabel_eq_of_mem (placed : Placed other forest) (member : node ∈ nodes forest)
    (parent : Option BlockId) :
    node.relabel owner parent = { node.ownedBy owner with parent := parent } := by
  have inside : nodes node.children ⊆ nodes forest := by
    intro inner found
    apply nodes_subset member
    rw [nodes_cons]
    exact List.mem_cons_of_mem _ (List.mem_append_left _ found)
  have labelled : relabel other (some node.id) node.children = node.children := by
    rw [relabel_eq_self_iff]
    refine ⟨?_, placed.linked node member, ?_⟩
    · exact fun inner found => placed.owned inner (inside found)
    · exact fun inner found => placed.linked inner (inside found)
  rw [Block.relabel_eq, Forest.relabel_eq_ownedBy _ labelled, Block.ownedBy_eq]

end Forest

end SpriteStage
