import SpriteStage.Progress
import SpriteStage.Proofs.Block.Nodes
import SpriteStage.Proofs.Table

namespace SpriteStage

/-!
# Looking progress up

Each operation on the entries of a run is described by what `get?` finds
after it.  A seeded forest has one fresh entry for each of its blocks; that
needs distinct identifiers, since a block seeded later overwrites an earlier
one of the same name.  Entries of other actors, and of other blocks, are kept.
-/

namespace Progress

variable {progress : Progress} {actor other : ActorId} {id block : BlockId} {kind : Kind}

@[simp] theorem get?_put (progress : Progress) (actor other : ActorId) (id block : BlockId)
    (entry : Entry) :
    (progress.put actor id entry).get? other block =
      if other = actor ∧ block = id then some entry else progress.get? other block := by
  simp only [get?, put, Table.get?_set, Prod.mk.injEq]

theorem get?_put_self (progress : Progress) (actor : ActorId) (id : BlockId) (entry : Entry) :
    (progress.put actor id entry).get? actor id = some entry := by
  simp

theorem get?_put_of_ne (progress : Progress) (entry : Entry)
    (outside : other ≠ actor ∨ block ≠ id) :
    (progress.put actor id entry).get? other block = progress.get? other block := by
  rw [get?_put, if_neg]
  rintro ⟨sameActor, sameBlock⟩
  exact outside.elim (fun different => different sameActor) fun different => different sameBlock

@[simp] theorem get?_empty (actor : ActorId) (id : BlockId) : empty.get? actor id = none := rfl

@[simp] theorem get?_forget (progress : Progress) (actor other : ActorId) (id : BlockId) :
    (progress.forget actor).get? other id =
      if other = actor then none else progress.get? other id := by
  by_cases same : other = actor <;> simp [get?, forget, same]

@[simp] theorem get?_forgetBlocks (progress : Progress) (actor other : ActorId)
    (ids : List BlockId) (id : BlockId) :
    (progress.forgetBlocks actor ids).get? other id =
      if other = actor ∧ id ∈ ids then none else progress.get? other id := by
  by_cases same : other = actor <;> by_cases member : id ∈ ids <;>
    simp [get?, forgetBlocks, same, member]

theorem fewer_forget (progress : Progress) (actor other : ActorId) (id : BlockId) :
    (progress.forget actor).get? other id = none ∨
      (progress.forget actor).get? other id = progress.get? other id := by
  rw [get?_forget]
  split
  · exact Or.inl rfl
  · exact Or.inr rfl

theorem fewer_forgetBlocks (progress : Progress) (actor : ActorId) (ids : List BlockId)
    (other : ActorId) (id : BlockId) :
    (progress.forgetBlocks actor ids).get? other id = none ∨
      (progress.forgetBlocks actor ids).get? other id = progress.get? other id := by
  rw [get?_forgetBlocks]
  split
  · exact Or.inl rfl
  · exact Or.inr rfl

/-! ## The entry of one block -/

theorem entryOf_of_some {entry : Entry} (found : progress.get? actor id = some entry) :
    progress.entryOf actor id kind = entry := by
  rw [entryOf, found, Option.getD_some]

theorem entryOf_of_none (missing : progress.get? actor id = none) :
    progress.entryOf actor id kind = Entry.fresh kind := by
  rw [entryOf, missing, Option.getD_none]

theorem entryOf_congr {first second : Progress}
    (same : first.get? actor id = second.get? actor id) :
    first.entryOf actor id kind = second.entryOf actor id kind := by
  rw [entryOf, entryOf, same]

/-- A block without an entry counts as one with a fresh entry. -/
theorem isFinished_eq_entryOf (progress : Progress) (actor : ActorId) (id : BlockId)
    (kind : Kind) : progress.isFinished actor id = (progress.entryOf actor id kind).finished := by
  cases found : progress.get? actor id with
  | none => rw [entryOf_of_none found, isFinished, found]; rfl
  | some entry => rw [entryOf_of_some found, isFinished, found]

theorem get?_ensure_self (progress : Progress) (actor : ActorId) (id : BlockId) (kind : Kind) :
    (progress.ensure actor id kind).get? actor id = some (progress.entryOf actor id kind) := by
  cases found : progress.get? actor id with
  | none => rw [ensure, found, entryOf_of_none found]; exact get?_put_self ..
  | some entry => rw [ensure, found, entryOf_of_some found]; exact found

theorem get?_ensure_of_ne (progress : Progress) (kind : Kind)
    (outside : other ≠ actor ∨ block ≠ id) :
    (progress.ensure actor id kind).get? other block = progress.get? other block := by
  cases found : progress.get? actor id with
  | none => rw [ensure, found]; exact get?_put_of_ne progress _ outside
  | some entry => rw [ensure, found]

/-! ## Seeding a forest -/

@[simp] theorem seed_nil (progress : Progress) (actor : ActorId) :
    progress.seed actor [] = progress := rfl

@[simp] theorem seed_cons (progress : Progress) (actor : ActorId) (node : Block)
    (rest : Forest) :
    progress.seed actor (node :: rest) =
      ((progress.put actor node.id (Entry.fresh node.kind)).seed actor node.children).seed
        actor rest := by
  rcases node with ⟨id, kind, owner, parent, children⟩
  rfl

/-- Seeding touches only the entries of the forest with its actor. -/
theorem get?_seed_of_notMem (forest : Forest) :
    forall progress : Progress, (other ≠ actor ∨ block ∉ Forest.ids forest) ->
      (progress.seed actor forest).get? other block = progress.get? other block := by
  induction forest using Forest.induction with
  | nil => exact fun _ _ => rfl
  | cons id kind owner parent children rest below after =>
    intro progress outside
    simp only [Forest.ids_cons, List.mem_cons, List.mem_append, not_or] at outside
    rw [seed_cons, after _ (outside.imp_right fun apart => apart.2.2),
      below _ (outside.imp_right fun apart => apart.2.1),
      get?_put_of_ne _ _ (outside.imp_right fun apart => apart.1)]

theorem get?_seed_of_mem (forest : Forest) :
    forall progress : Progress, (Forest.ids forest).Nodup -> (block, kind) ∈ Forest.kinds forest ->
      (progress.seed actor forest).get? actor block = some (Entry.fresh kind) := by
  induction forest using Forest.induction with
  | nil => exact fun _ _ listed => absurd listed List.not_mem_nil
  | cons id rootKind owner parent children rest below after =>
    intro progress distinct listed
    rw [Forest.ids_cons, List.nodup_cons, List.nodup_append] at distinct
    rcases distinct with ⟨rootApart, childrenDistinct, restDistinct, apart⟩
    rw [List.mem_append, not_or] at rootApart
    rw [Forest.kinds_cons, List.mem_cons, List.mem_append, Prod.mk.injEq] at listed
    rw [seed_cons]
    rcases listed with ⟨sameId, sameKind⟩ | inChildren | inRest
    · subst sameId sameKind
      rw [get?_seed_of_notMem rest _ (Or.inr rootApart.2),
        get?_seed_of_notMem children _ (Or.inr rootApart.1), get?_put_self]
    · have notInRest : block ∉ Forest.ids rest := fun inRest =>
        apart _ (Forest.mem_ids_of_mem_kinds inChildren) _ inRest rfl
      rw [get?_seed_of_notMem rest _ (Or.inr notInRest)]
      exact below _ childrenDistinct inChildren
    · exact after _ restDistinct inRest

/-- Seeding a forest does the same to an entry in any two tables. -/
theorem get?_seed_congr (forest : Forest) :
    forall first second : Progress, first.get? other block = second.get? other block ->
      (first.seed actor forest).get? other block = (second.seed actor forest).get? other block := by
  induction forest using Forest.induction with
  | nil => exact fun _ _ same => same
  | cons id kind owner parent children rest below after =>
    intro first second same
    rw [seed_cons, seed_cons]
    refine after _ _ (below _ _ ?_)
    rw [get?_put, get?_put, same]

/-- The entries at the start of a run: those of an actor come from the row of
the actor. -/
theorem get?_start_rows {rows : List (ActorId × Forest)} (distinct : (rows.map Prod.fst).Nodup)
    (actor : ActorId) (id : BlockId) :
    (start rows).get? actor id =
      (empty.seed actor ((Table.lookup actor rows).getD [])).get? actor id := by
  suffices general : forall progress : Progress,
      (rows.foldl (fun progress row => progress.seed row.1 row.2) progress).get? actor id =
        (progress.seed actor ((Table.lookup actor rows).getD [])).get? actor id from general empty
  induction rows with
  | nil => exact fun _ => rfl
  | cons row rest step =>
    intro progress
    rcases row with ⟨owner, forest⟩
    rw [List.map_cons, List.nodup_cons] at distinct
    rw [List.foldl_cons, step distinct.2, Table.lookup]
    by_cases own : owner = actor
    · have gone : Table.lookup actor rest = none := by
        cases found : Table.lookup actor rest with
        | none => rfl
        | some other =>
          exact absurd (List.mem_map_of_mem (Table.mem_of_lookup found)) (own ▸ distinct.1)
      rw [if_pos own, gone, own]
      rfl
    · rw [if_neg own]
      exact get?_seed_congr _ _ _ (get?_seed_of_notMem _ _ (Or.inl (Ne.symm own)))

end Progress

end SpriteStage
