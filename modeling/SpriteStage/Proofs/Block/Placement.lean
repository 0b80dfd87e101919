import SpriteStage.Proofs.Block.Nodes

namespace SpriteStage

/-!
# Placed forests

A forest is placed with an actor when its blocks say where they are: each
names the actor, the blocks of the top level name no parent, and every other
block names the one whose children hold it.  That is the case just when
relabelling the forest for the actor changes nothing, which turns facts about
placement into equations.
-/

theorem Block.relabel_eq (owner : ActorId) (above : Option BlockId) (node : Block) :
    node.relabel owner above =
      ⟨node.id, node.kind, owner, above,
        Forest.relabel owner (some node.id) node.children⟩ := by
  cases node
  rfl

namespace Forest

/-- Every block names its owner and the block that holds it. -/
structure Placed (owner : ActorId) (forest : Forest) : Prop where
  owned : forall node, node ∈ nodes forest -> node.actor = owner
  topLevel : forall node, node ∈ forest -> node.parent = none
  linked : forall node, node ∈ nodes forest ->
    forall child, child ∈ node.children -> child.parent = some node.id

/-- Only blocks of a kind that holds others have children. -/
def Nested (forest : Forest) : Prop :=
  forall node, node ∈ nodes forest -> node.children ≠ [] -> node.kind.holdsBlocks = true

/-! ## Relabelling -/

section Relabel

variable (owner other : ActorId) (above below : Option BlockId)

@[simp] theorem relabel_nil : relabel owner above [] = [] := rfl

@[simp] theorem relabel_cons (node : Block) (rest : Forest) :
    relabel owner above (node :: rest) =
      node.relabel owner above :: relabel owner above rest := rfl

@[simp] theorem relabel_append (first second : Forest) :
    relabel owner above (first ++ second) =
      relabel owner above first ++ relabel owner above second := by
  induction first with
  | nil => rfl
  | cons node rest step => rw [List.cons_append, relabel_cons, step]; rfl

@[simp] theorem kinds_relabel (forest : Forest) :
    kinds (relabel owner above forest) = kinds forest := by
  induction forest using Forest.induction generalizing above with
  | nil => rfl
  | cons id kind actor parent children rest inside after =>
    simp only [relabel_cons, Block.relabel_eq, kinds_cons, inside, after]

@[simp] theorem ids_relabel (forest : Forest) :
    ids (relabel owner above forest) = ids forest := by
  rw [← map_fst_kinds, kinds_relabel, map_fst_kinds]

theorem ids_relabel_tree (node : Block) : (node.relabel owner above).ids = node.ids := by
  rw [Block.ids_eq_forest, Block.ids_eq_forest]
  exact ids_relabel owner above [node]

@[simp] theorem relabel_relabel (forest : Forest) :
    relabel owner above (relabel other below forest) = relabel owner above forest := by
  induction forest using Forest.induction generalizing above below with
  | nil => rfl
  | cons id kind actor parent children rest inside after =>
    simp only [relabel_cons, Block.relabel_eq, inside, after]

theorem relabel_eq_nil_iff {forest : Forest} :
    relabel owner above forest = [] <-> forest = [] := by
  cases forest <;> simp

end Relabel

theorem relabel_eq_self_iff {owner : ActorId} {forest : Forest} :
    forall above : Option BlockId, relabel owner above forest = forest <->
      (forall node, node ∈ nodes forest -> node.actor = owner) ∧
        (forall node, node ∈ forest -> node.parent = above) ∧
        forall node, node ∈ nodes forest ->
          forall child, child ∈ node.children -> child.parent = some node.id := by
  induction forest using Forest.induction with
  | nil => simp
  | cons id kind actor parent children rest inside after =>
    intro above
    rw [relabel_cons, Block.relabel_eq, List.cons.injEq, Block.mk.injEq, inside, after]
    simp only [nodes_cons, List.mem_cons, List.mem_append, or_imp, forall_and, forall_eq,
      true_and]
    constructor
    · rintro ⟨⟨rfl, rfl, ownedBelow, linked, linkedBelow⟩, ownedAfter, topAfter, linkedAfter⟩
      exact ⟨⟨rfl, ownedBelow, ownedAfter⟩, ⟨rfl, topAfter⟩, linked, linkedBelow, linkedAfter⟩
    · rintro ⟨⟨rfl, ownedBelow, ownedAfter⟩, ⟨rfl, topAfter⟩, linked, linkedBelow, linkedAfter⟩
      exact ⟨⟨rfl, rfl, ownedBelow, linked, linkedBelow⟩, ownedAfter, topAfter, linkedAfter⟩

theorem placed_iff_relabel {owner : ActorId} {forest : Forest} :
    Placed owner forest <-> relabel owner none forest = forest := by
  rw [relabel_eq_self_iff]
  constructor
  · intro placed
    exact ⟨placed.owned, placed.topLevel, placed.linked⟩
  · intro labels
    exact ⟨labels.1, labels.2.1, labels.2.2⟩

theorem placed_relabel (owner : ActorId) (forest : Forest) :
    Placed owner (relabel owner none forest) :=
  placed_iff_relabel.2 (relabel_relabel owner owner none none forest)

/-! ## Nesting -/

theorem nested_nil : Nested [] := fun _ member => absurd member List.not_mem_nil

@[simp] theorem nested_cons {node : Block} {rest : Forest} :
    Nested (node :: rest) <->
      (node.children ≠ [] -> node.kind.holdsBlocks = true) ∧
        Nested node.children ∧ Nested rest := by
  simp only [Nested, nodes_cons, List.mem_cons, List.mem_append, or_imp, forall_and,
    forall_eq]

@[simp] theorem nested_append {first second : Forest} :
    Nested (first ++ second) <-> Nested first ∧ Nested second := by
  simp only [Nested, nodes_append, List.mem_append, or_imp, forall_and]

theorem nested_of_mem {forest : Forest} {node : Block} (nested : Nested forest)
    (member : node ∈ nodes forest) : Nested [node] :=
  fun inner inside => nested inner (nodes_subset member inside)

theorem nested_relabel {owner : ActorId} {forest : Forest} :
    forall above : Option BlockId,
      Nested (relabel owner above forest) <-> Nested forest := by
  induction forest using Forest.induction with
  | nil => exact fun _ => Iff.rfl
  | cons id kind actor parent children rest inside after =>
    intro above
    rw [relabel_cons, Block.relabel_eq, nested_cons, nested_cons, inside, after, ne_eq,
      relabel_eq_nil_iff]

end Forest

end SpriteStage
