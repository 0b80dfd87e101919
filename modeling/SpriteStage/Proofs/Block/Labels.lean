import SpriteStage.Programs
import SpriteStage.Proofs.Block.Placement

namespace SpriteStage

/-!
# Labels of blocks

A label is read off a block without a look at its children, as its identifier
is or the actor that it names.  Changing one block of a forest, and taking a
tree out of it, leave the labels of all others, whatever becomes of what the
others hold.  Nothing here supposes that identifiers are distinct.
-/

namespace Forest

variable {Label : Type} {label : Block -> Label} {value : Label}

def labels (label : Block -> Label) (forest : Forest) : List Label := (nodes forest).map label

def owners (forest : Forest) : List ActorId := labels Block.actor forest

/-- Whether a label does not depend on the children of a block. -/
def Shallow (label : Block -> Label) : Prop :=
  forall (node : Block) (children : Forest), label { node with children := children } = label node

theorem shallow_id : Shallow Block.id := fun _ _ => rfl

theorem shallow_actor : Shallow Block.actor := fun _ _ => rfl

@[simp] theorem labels_nil : labels label [] = [] := rfl

@[simp] theorem labels_cons (node : Block) (rest : Forest) :
    labels label (node :: rest) =
      label node :: (labels label node.children ++ labels label rest) := by
  simp [labels]

@[simp] theorem labels_append (first second : Forest) :
    labels label (first ++ second) = labels label first ++ labels label second := by
  simp [labels]

theorem ids_eq_labels (forest : Forest) : ids forest = labels Block.id forest := ids_eq_map forest

/-- Changing a block brings a label in only if the change does. -/
theorem mem_labels_of_modify? {wanted : BlockId} {change : Block -> Block} {New : Prop}
    (shallow : Shallow label)
    (brings : forall node, value ∈ labels label [change node] ->
      value ∈ labels label [node] ∨ New) (forest : Forest) :
    forall {changed : Forest}, modify? wanted change forest = some changed ->
      value ∈ labels label changed -> value ∈ labels label forest ∨ New := by
  induction forest using Forest.induction with
  | nil =>
    intro changed modified
    cases modified
  | cons root kind actor parent children rest below after =>
    intro changed modified member
    rw [modify?, Block.modify?] at modified
    rw [labels_cons, List.mem_cons, List.mem_append]
    by_cases same : root = wanted
    · rw [if_pos same] at modified
      cases modified
      rw [← List.singleton_append, labels_append, List.mem_append] at member
      rcases member with inTree | inRest
      · refine (brings _ inTree).imp_left fun old => ?_
        rw [labels_cons, List.mem_cons, labels_nil, List.append_nil] at old
        exact old.imp_right Or.inl
      · exact Or.inl (Or.inr (Or.inr inRest))
    · rw [if_neg same] at modified
      cases inside : modify? wanted change children with
      | some remade =>
        rw [inside] at modified
        cases modified
        rw [labels_cons, List.mem_cons, List.mem_append] at member
        rcases member with own | inChildren | inRest
        · have same : label ⟨root, kind, actor, parent, remade⟩ =
              label ⟨root, kind, actor, parent, children⟩ := shallow ⟨_, _, _, _, children⟩ remade
          exact Or.inl (Or.inl (own.trans same))
        · exact (below inside inChildren).imp_left fun old => Or.inr (Or.inl old)
        · exact Or.inl (Or.inr (Or.inr inRest))
      | none =>
        rw [inside] at modified
        rcases Option.map_eq_some_iff.1 modified with ⟨remade, later, rfl⟩
        rw [labels_cons, List.mem_cons, List.mem_append] at member
        rcases member with own | inChildren | inRest
        · exact Or.inl (Or.inl own)
        · exact Or.inl (Or.inr (Or.inl inChildren))
        · exact (after later inRest).imp_left fun old => Or.inr (Or.inr old)

theorem mem_labels_of_updated {wanted : BlockId} {change : Block -> Block} {New : Prop}
    (shallow : Shallow label)
    (brings : forall node, value ∈ labels label [change node] ->
      value ∈ labels label [node] ∨ New) {forest : Forest}
    (member : value ∈ labels label (Programs.updated forest wanted change)) :
    value ∈ labels label forest ∨ New := by
  unfold Programs.updated at member
  cases modified : modify? wanted change forest with
  | some changed =>
    rw [modified] at member
    exact mem_labels_of_modify? shallow brings forest modified member
  | none =>
    rw [modified] at member
    exact Or.inl member

/-- A block with one more child has the labels of both. -/
theorem labels_adopt (shallow : Shallow label) (node child : Block) :
    labels label [node.adopt child] = labels label [node] ++ labels label [child] := by
  have same : label (node.adopt child) = label node := shallow node _
  rw [labels_cons, labels_cons, same, Block.adopt, labels_append]
  simp only [labels_nil, List.append_nil, List.cons_append]

/-- A block of a relabelled forest names the new actor. -/
theorem owner_of_mem_relabel {actor owner : ActorId} (forest : Forest) :
    forall {above : Option BlockId}, actor ∈ owners (relabel owner above forest) ->
      actor = owner := by
  induction forest using Forest.induction with
  | nil => exact fun member => absurd member List.not_mem_nil
  | cons id kind former parent children rest below after =>
    intro above member
    rw [relabel_cons, Block.relabel_eq, owners, labels_cons, List.mem_cons,
      List.mem_append] at member
    rcases member with own | inChildren | inRest
    · exact own
    · exact below inChildren
    · exact after inRest

end Forest

end SpriteStage
