import SpriteStage.Proofs.Block.Labels
import SpriteStage.Proofs.Programs.Refusal
import SpriteStage.Proofs.Programs.Soundness

namespace SpriteStage

/-!
# Secluded programs

A program is secluded when its blocks have distinct identifiers that no block
of another program has.  In a sound store every program is.  An edit of blocks
of other programs leaves a secluded program as it is, and secluded, whatever
else it makes of the store: nothing is asked of the trees that are inserted,
and two blocks of another program may have the same identifier.
-/

theorem Block.ids_adopt (node child : Block) : (node.adopt child).ids = node.ids ++ child.ids := by
  rw [Block.ids_eq, Block.ids_eq node, Block.ids_eq_forest child]
  exact congrArg (node.id :: ·) (Forest.ids_append node.children [child])

namespace Forest

variable {wanted id : BlockId}

/-- Changing a block brings an identifier in only if the change does. -/
theorem mem_ids_of_updated {change : Block -> Block} {New : Prop}
    (brings : forall node, id ∈ (change node).ids -> id ∈ node.ids ∨ New)
    {forest : Forest} (member : id ∈ ids (Programs.updated forest wanted change)) :
    id ∈ ids forest ∨ New := by
  rw [ids_eq_labels] at member ⊢
  refine mem_labels_of_updated shallow_id ?_ member
  intro node inChanged
  rw [← ids_eq_labels, ← Block.ids_eq_forest] at inChanged ⊢
  exact brings node inChanged

/-- The labels of a forest are those of the tree that is taken out and those of
what is left. -/
theorem Detaches.labels_perm {Label : Type} {label : Block -> Label} (shallow : Shallow label)
    {forest left : Forest} {taken : Block} (detached : Detaches wanted forest taken left) :
    (labels label forest).Perm (labels label [taken] ++ labels label left) := by
  induction detached with
  | root node rest same =>
    rw [← labels_append]
    exact List.Perm.refl _
  | @within node rest taken left different inside step =>
    have same : label { node with children := left } = label node := shallow node left
    rw [labels_cons node, labels_cons { node with children := left }, same]
    have middle := (step.append_right (labels label rest)).cons (label node)
    rw [List.append_assoc] at middle
    exact middle.trans List.perm_middle.symm
  | @later node rest taken left different after step =>
    rw [labels_cons node, labels_cons node, ← List.cons_append, ← List.cons_append]
    have behind := step.append_left (label node :: labels label node.children)
    exact behind.trans (List.perm_append_comm_assoc _ _ _)

/-- The blocks of a forest are those of the tree that is taken out and those
that are left. -/
theorem Detaches.ids_perm {forest left : Forest} {taken : Block}
    (detached : Detaches wanted forest taken left) :
    (ids forest).Perm (taken.ids ++ ids left) := by
  rw [Block.ids_eq_forest, ids_eq_labels, ids_eq_labels, ids_eq_labels]
  exact detached.labels_perm shallow_id

/-- The block that is taken out was there. -/
theorem Detaches.mem_ids {forest left : Forest} {taken : Block}
    (detached : Detaches wanted forest taken left) : wanted ∈ ids forest := by
  rw [detached.ids_perm.mem_iff, List.mem_append, Block.ids_eq, detached.id_eq]
  exact Or.inl List.mem_cons_self

end Forest

namespace Programs

/-- Whether the blocks of an actor have distinct identifiers that no other
program has. -/
structure Secludes (store : Programs) (actor : ActorId) : Prop where
  distinct : (Forest.ids (store.forest actor)).Nodup
  apart : forall id, id ∈ Forest.ids (store.forest actor) ->
    forall other, other ≠ actor -> id ∉ Forest.ids (store.forest other)

/-- Whether an edit left the program of an actor as it was, and secluded. -/
structure PassesBy (actor : ActorId) (before after : Programs) : Prop where
  forest : after.forest actor = before.forest actor
  secluded : after.Secludes actor

variable {store next without : Programs} {actor other : ActorId} {id twin : BlockId}
  {node taken : Block} {parent : Option BlockId}

theorem Sound.secludes (sound : store.Sound) (actor : ActorId) : store.Secludes actor where
  distinct := sound.distinct actor
  apart := fun _ own _ different foreign => different (sound.owner_unique foreign own)

/-- A program with a new tree has the blocks of both. -/
theorem mem_ids_grown (member : id ∈ Forest.ids (store.grown node parent actor)) :
    id ∈ Forest.ids (store.forest actor) ∨ id ∈ node.ids := by
  cases parent with
  | none =>
    rw [grown, Forest.ids_append, List.mem_append, ← Block.ids_eq_forest,
      Forest.ids_relabel_tree] at member
    exact member
  | some above =>
    rw [grown] at member
    refine Forest.mem_ids_of_updated ?_ member
    intro target inTarget
    rw [Block.ids_adopt, Forest.ids_relabel_tree, List.mem_append] at inTarget
    exact inTarget

/-- A program in which one block has another kind has the blocks that it had. -/
theorem mem_ids_of_withKind {kind : Kind} {forest : Forest}
    (member : twin ∈ Forest.ids (updated forest id fun node => node.withKind kind)) :
    twin ∈ Forest.ids forest := by
  have old : twin ∈ Forest.ids forest ∨ False := by
    refine Forest.mem_ids_of_updated ?_ member
    intro target inTarget
    rw [Block.ids_eq] at inTarget ⊢
    exact Or.inl inTarget
  exact old.resolve_right not_false

namespace Secludes

theorem passed (secluded : store.Secludes actor) : PassesBy actor store store := ⟨rfl, secluded⟩

theorem of_programs (secluded : store.Secludes actor)
    (same : next.forest actor = store.forest actor)
    (apart : forall id, id ∈ Forest.ids (store.forest actor) ->
      forall other, other ≠ actor -> id ∉ Forest.ids (next.forest other)) :
    PassesBy actor store next := by
  refine ⟨same, ?_, ?_⟩
  · rw [same]
    exact secluded.distinct
  · rw [same]
    exact apart

/-- Another program may become anything that has no block of the actor. -/
theorem withForest (secluded : store.Secludes actor) (different : other ≠ actor)
    {forest : Forest}
    (foreign : forall id, id ∈ Forest.ids (store.forest actor) -> id ∉ Forest.ids forest) :
    PassesBy actor store (store.withForest other forest) := by
  apply secluded.of_programs
  · rw [forest_withForest, if_neg (Ne.symm different)]
  · intro id own someone elsewhere
    rw [forest_withForest]
    split
    · exact foreign id own
    · exact secluded.apart id own someone elsewhere

theorem insert (secluded : store.Secludes actor) (different : other ≠ actor)
    (inserted : store.insert node parent other = .ok next) : PassesBy actor store next := by
  rcases insert_eq_ok_iff.1 inserted with ⟨unplaced, _, rfl⟩
  apply secluded.withForest different
  intro id own member
  rcases mem_ids_grown member with placed | new
  · exact secluded.apart id own other different placed
  · exact unplaced id new actor own

/-- What a removal takes out of another program passes the actor by, and what
it takes out of the program of the actor is nowhere any more. -/
theorem removed_cases (secluded : store.Secludes actor)
    (removed : store.remove id = .ok (taken, without)) :
    PassesBy actor store without ∨
      (id ∈ Forest.ids (store.forest actor) ∧
        forall twin, twin ∈ taken.ids -> without.holds twin = false) := by
  rcases detaches_of_remove removed with ⟨owner, left, detached, rfl⟩
  have parts := detached.ids_perm
  by_cases own : owner = actor
  · subst own
    have distinct := parts.nodup_iff.1 secluded.distinct
    refine Or.inr ⟨detached.mem_ids, ?_⟩
    intro twin inside
    rw [Bool.eq_false_iff, ne_eq, holds_iff]
    rintro ⟨someone, placed⟩
    rw [forest_withForest] at placed
    split at placed
    · exact (List.nodup_append.1 distinct).2.2 twin inside twin placed rfl
    · rename_i elsewhere
      have mine := parts.mem_iff.2 (List.mem_append_left _ inside)
      exact secluded.apart twin mine someone elsewhere placed
  · apply Or.inl
    apply secluded.withForest own
    intro block mine inLeft
    exact secluded.apart block mine owner own (parts.mem_iff.2 (List.mem_append_right _ inLeft))

theorem remove (secluded : store.Secludes actor)
    (foreign : id ∉ Forest.ids (store.forest actor))
    (removed : store.remove id = .ok (taken, without)) : PassesBy actor store without :=
  (secluded.removed_cases removed).resolve_right fun own => foreign own.1

theorem move (secluded : store.Secludes actor) (foreign : id ∉ Forest.ids (store.forest actor))
    (different : other ≠ actor) : PassesBy actor store (store.move id other parent).1 := by
  refine move_of_kept secluded.passed (fun _ _ removed => secluded.remove foreign removed) ?_
  intro node before next left inserted
  have arrived := left.secluded.insert different inserted
  exact ⟨arrived.forest.trans left.forest, arrived.secluded⟩

theorem adjust (secluded : store.Secludes actor) (foreign : id ∉ Forest.ids (store.forest actor))
    {name : String} {value : Parameter} (adjusted : store.adjust id name value = .ok next) :
    PassesBy actor store next := by
  rcases adjust_eq_ok adjusted with ⟨owner, node, kind, located, _, rfl⟩
  have placed := Forest.mem_ids_of_find? (find?_of_locate located)
  have different : owner ≠ actor := fun own => foreign (own ▸ placed)
  apply secluded.withForest different
  intro block mine member
  exact secluded.apart block mine owner different (mem_ids_of_withKind member)

theorem erase (secluded : store.Secludes actor) (different : other ≠ actor) :
    PassesBy actor store (store.erase other) := by
  apply secluded.of_programs
  · rw [forest_erase, if_neg (Ne.symm different)]
  · intro id own someone elsewhere
    rw [forest_erase]
    split
    · exact List.not_mem_nil
    · exact secluded.apart id own someone elsewhere

theorem exchange (secluded : store.Secludes actor) {one two : ActorId} (first : one ≠ actor)
    (second : two ≠ actor) : PassesBy actor store (store.exchange one two) := by
  by_cases same : one = two
  · rw [Programs.exchange, if_pos same]
    exact secluded.passed
  · apply secluded.of_programs
    · rw [forest_exchange same, if_neg (Ne.symm second), if_neg (Ne.symm first)]
    · intro id own someone elsewhere
      rw [forest_exchange same]
      split
      · rw [Forest.ids_relabel]
        exact secluded.apart id own one first
      · split
        · rw [Forest.ids_relabel]
          exact secluded.apart id own two second
        · exact secluded.apart id own someone elsewhere

end Secludes

end Programs

end SpriteStage
