import SpriteStage.Proofs.Block.Revision

namespace SpriteStage

/-!
# Sequences and their ends

Blocks stand in sequences: the top level of a forest, and the children of each
of its blocks.  Everything that comes to a program comes to the end of one of
its sequences.  Extending is the same map over the forest wherever the
sequence is, so what is said here holds at every depth.
-/

def Block.adoptAll (node : Block) (added : Forest) : Block :=
  { node with children := node.children ++ added }

theorem Block.id_adoptAll (added : Forest) (node : Block) :
    (node.adoptAll added).id = node.id := rfl

namespace Forest

/-- The blocks of a sequence of a forest: those of the top level, or the
children of a block. -/
def sequence? (parent : Option BlockId) (forest : Forest) : Option Forest :=
  match parent with
  | none => some forest
  | some above => (find? above forest).map Block.children

/-- The forest with more trees at the end of one of its sequences. -/
def extend (parent : Option BlockId) (added forest : Forest) : Forest :=
  match parent with
  | none => forest ++ added
  | some above => revise above (fun node => node.adoptAll added) forest

variable {wanted above : BlockId} {parent : Option BlockId} {change : Block -> Block}

theorem find?_revise (keeps : forall node, (change node).id = node.id) (forest : Forest) :
    find? wanted (revise wanted change forest) = (find? wanted forest).map change := by
  induction forest using Forest.induction with
  | nil => rfl
  | cons id kind actor parent children rest below after =>
    by_cases same : id = wanted
    · rw [revise_cons_of_eq rest same, find?_cons_of_eq rest same,
        find?_cons_of_eq _ ((keeps _).trans same)]
      rfl
    · rw [revise_cons_of_ne rest same, find?_cons_of_ne rest same, find?_cons_of_ne _ same, below,
        after, Option.map_or]

theorem revise_revise {next : Block -> Block} (keeps : forall node, (change node).id = node.id)
    (forest : Forest) :
    revise wanted next (revise wanted change forest) =
      revise wanted (fun node => next (change node)) forest := by
  induction forest using Forest.induction with
  | nil => rfl
  | cons id kind actor parent children rest below after =>
    by_cases same : id = wanted
    · rw [revise_cons_of_eq rest same, revise_cons_of_eq rest same,
        revise_cons_of_eq _ ((keeps _).trans same), after]
    · rw [revise_cons_of_ne rest same, revise_cons_of_ne rest same, revise_cons_of_ne _ same,
        below, after]

theorem revise_append (first second : Forest) :
    revise wanted change (first ++ second) =
      revise wanted change first ++ revise wanted change second := by
  induction first with
  | nil => rfl
  | cons node rest step => rw [List.cons_append, revise, revise, step, List.cons_append]

theorem prune_append (first second : Forest) :
    prune wanted (first ++ second) = prune wanted first ++ prune wanted second := by
  induction first with
  | nil => rfl
  | cons node rest step =>
    rw [List.cons_append]
    by_cases same : node.id = wanted
    · rw [prune_cons_of_eq _ same, prune_cons_of_eq rest same, step]
    · rw [prune_cons_of_ne _ same, prune_cons_of_ne rest same, step, List.cons_append]

/-! ## Extending -/

theorem sequence?_extend (parent : Option BlockId) (added forest : Forest) :
    sequence? parent (extend parent added forest) =
      (sequence? parent forest).map (· ++ added) := by
  cases parent with
  | none => rfl
  | some above =>
    rw [sequence?, extend, find?_revise (Block.id_adoptAll added), sequence?, Option.map_map,
      Option.map_map]
    rfl

theorem extend_extend (parent : Option BlockId) (early late forest : Forest) :
    extend parent late (extend parent early forest) = extend parent (early ++ late) forest := by
  cases parent with
  | none => exact List.append_assoc forest early late
  | some above =>
    rw [extend, extend, extend, revise_revise (Block.id_adoptAll early)]
    simp only [Block.adoptAll, List.append_assoc]

theorem extend_nil (parent : Option BlockId) (forest : Forest) :
    extend parent [] forest = forest := by
  cases parent with
  | none => exact List.append_nil forest
  | some above =>
    rw [extend]
    induction forest using Forest.induction with
    | nil => rfl
    | cons id kind actor parent children rest below after =>
      by_cases same : id = above
      · rw [revise_cons_of_eq rest same, after, Block.adoptAll, List.append_nil]
      · rw [revise_cons_of_ne rest same, below, after]

/-- What comes below a block that has just come to the end of a sequence could
have come with it. -/
theorem extend_below {forest added : Forest} {child : Block} (own : child.id = wanted)
    (absent : wanted ∉ ids forest) (parent : Option BlockId) :
    extend (some wanted) added (extend parent [child] forest) =
      extend parent [child.adoptAll added] forest := by
  have alone : revise wanted (fun node => node.adoptAll added) [child] =
      [child.adoptAll added] := revise_cons_of_eq [] own
  cases parent with
  | none => rw [extend, extend, extend, revise_append, revise_of_notMem absent, alone]
  | some above =>
    rw [extend, extend, extend]
    induction forest using Forest.induction with
    | nil => rfl
    | cons id kind actor parent children rest below after =>
      simp only [ids_cons, List.mem_cons, List.mem_append, not_or] at absent
      rcases absent with ⟨notRoot, notChildren, notRest⟩
      by_cases same : id = above
      · rw [revise_cons_of_eq rest same, revise_cons_of_eq rest same, Block.adoptAll,
          revise_cons_of_ne _ (Ne.symm notRoot), after notRest, revise_append,
          revise_of_notMem notChildren, alone]
        rfl
      · rw [revise_cons_of_ne rest same, revise_cons_of_ne rest same,
          revise_cons_of_ne _ (Ne.symm notRoot), below notChildren, after notRest]

/-- What comes to the end of a sequence is all that pruning it takes away. -/
theorem prune_extend {forest : Forest} {child : Block} (own : child.id = wanted)
    (absent : wanted ∉ ids forest) (parent : Option BlockId) :
    prune wanted (extend parent [child] forest) = forest := by
  have alone : prune wanted [child] = [] := prune_cons_of_eq [] own
  cases parent with
  | none => rw [extend, prune_append, prune_of_notMem absent, alone, List.append_nil]
  | some above =>
    rw [extend]
    induction forest using Forest.induction with
    | nil => rfl
    | cons id kind actor parent children rest below after =>
      simp only [ids_cons, List.mem_cons, List.mem_append, not_or] at absent
      rcases absent with ⟨notRoot, notChildren, notRest⟩
      by_cases same : id = above
      · rw [revise_cons_of_eq rest same, Block.adoptAll, prune_cons_of_ne _ (Ne.symm notRoot),
          after notRest, prune_append, prune_of_notMem notChildren, alone, List.append_nil]
      · rw [revise_cons_of_ne rest same, prune_cons_of_ne _ (Ne.symm notRoot), below notChildren,
          after notRest]

end Forest

end SpriteStage
