import SpriteStage.Proofs.Programs.Lookup

namespace SpriteStage

/-!
# Moves that are refused

A move takes a tree out and inserts it again.  What could refuse it is looked
at before the tree is taken out, with one exception: the insertion counts the
identifiers of the tree as taken while they are also those of blocks outside
it.  So a refused move leaves the store as it was, or it is refused because an
identifier is taken, and then the tree is lost.  The second case needs an
identifier that two blocks of the store have.

Nothing here supposes that identifiers are distinct.  A search and a removal
may then come upon different blocks of a name, since a removal looks at all
blocks of a sequence before it looks inside them.  They agree where no block
of the name is left.
-/

namespace Forest

/-- A tree is taken out from somewhere in a forest. -/
inductive Detaches (wanted : BlockId) : Forest -> Block -> Forest -> Prop
  | root (node : Block) (rest : Forest) (same : node.id = wanted) :
      Detaches wanted (node :: rest) node rest
  | within (node : Block) (rest : Forest) {taken : Block} {left : Forest}
      (different : node.id ≠ wanted) (inside : Detaches wanted node.children taken left) :
      Detaches wanted (node :: rest) taken ({ node with children := left } :: rest)
  | later (node : Block) {rest : Forest} {taken : Block} {left : Forest}
      (different : node.id ≠ wanted) (after : Detaches wanted rest taken left) :
      Detaches wanted (node :: rest) taken (node :: left)

variable {wanted other : BlockId} {forest left : Forest} {taken : Block}

theorem detaches_of_pick? (picked : pick? wanted forest = some (taken, left)) :
    Detaches wanted forest taken left := by
  induction forest generalizing left with
  | nil => cases picked
  | cons node rest step =>
    rw [pick?] at picked
    by_cases same : node.id = wanted
    · rw [if_pos same, Option.some.injEq, Prod.mk.injEq] at picked
      rw [← picked.1, ← picked.2]
      exact .root node rest same
    · rw [if_neg same, Option.map_eq_some_iff] at picked
      rcases picked with ⟨found, pickedRest, ⟨rfl, rfl⟩⟩
      exact .later node same (step pickedRest)

/-- Taking a block out detaches a tree of that name. -/
theorem detaches_of_take? (takenOut : take? wanted forest = some (taken, left)) :
    Detaches wanted forest taken left := by
  induction forest using Forest.induction generalizing left with
  | nil => cases takenOut
  | cons id kind actor parent children rest below after =>
    rw [take?] at takenOut
    cases picked : pick? wanted (⟨id, kind, actor, parent, children⟩ :: rest) with
    | some found =>
      rw [picked] at takenOut
      cases takenOut
      exact detaches_of_pick? picked
    | none =>
      have missed := pick?_cons_eq_none picked
      have belowRest : takeBelow? wanted rest = take? wanted rest := by rw [take?, missed.2]
      rw [picked] at takenOut
      dsimp only at takenOut
      rw [takeBelow?, takeBelow?_eq_take?, belowRest] at takenOut
      cases inside : take? wanted children with
      | some found =>
        rw [inside] at takenOut
        cases takenOut
        exact .within _ rest missed.1 (below inside)
      | none =>
        rw [inside] at takenOut
        rcases Option.map_eq_some_iff.1 takenOut with ⟨found, takenLater, same⟩
        cases same
        exact .later _ missed.1 (after takenLater)

namespace Detaches

theorem id_eq (detached : Detaches wanted forest taken left) : taken.id = wanted := by
  induction detached with
  | root node rest same => exact same
  | within node rest different inside step => exact step
  | later node different after step => exact step

/-- When no block of the name is left, the tree is the one that a search finds. -/
theorem find?_eq_some (detached : Detaches wanted forest taken left) (gone : wanted ∉ ids left) :
    find? wanted forest = some taken := by
  induction detached with
  | root node rest same => exact find?_cons_of_eq rest same
  | within node rest different inside step =>
    simp only [ids_cons, List.mem_cons, List.mem_append, not_or] at gone
    rw [find?_cons_of_ne rest different, step gone.2.1, Option.some_or]
  | later node different after step =>
    simp only [ids_cons, List.mem_cons, List.mem_append, not_or] at gone
    rw [find?_cons_of_ne _ different, find?_eq_none_iff.2 gone.2.1, Option.none_or, step gone.2.2]

/-- A search for a block outside the tree finds one of the same kind after it. -/
theorem map_kind_find? (detached : Detaches wanted forest taken left)
    (outside : other ∉ taken.ids) :
    (find? other left).map Block.kind = (find? other forest).map Block.kind := by
  induction detached with
  | root node rest same =>
    rw [Block.ids_eq, List.mem_cons, not_or] at outside
    rw [find?_cons_of_ne rest (Ne.symm outside.1), find?_eq_none_iff.2 outside.2, Option.none_or]
  | @within node rest _ remains different inside step =>
    let thinned : Block := { node with children := remains }
    by_cases own : node.id = other
    · have foundAfter : find? other (thinned :: rest) = some thinned := find?_cons_of_eq rest own
      rw [foundAfter, find?_cons_of_eq rest own]
      rfl
    · have searchAfter : find? other (thinned :: rest) =
          (find? other remains).or (find? other rest) := find?_cons_of_ne rest own
      rw [searchAfter, find?_cons_of_ne rest own, Option.map_or, Option.map_or, step outside]
  | later node different after step =>
    by_cases own : node.id = other
    · rw [find?_cons_of_eq _ own, find?_cons_of_eq _ own]
    · rw [find?_cons_of_ne _ own, find?_cons_of_ne _ own, Option.map_or, Option.map_or,
        step outside]

end Detaches

end Forest

namespace Programs

variable {store without : Programs} {actor : ActorId} {id twin : BlockId} {taken node : Block}
  {parent : Option BlockId} {refusal : ProgramRefusal}

/-- A removal detaches a tree from one program. -/
theorem detaches_of_remove (removed : store.remove id = .ok (taken, without)) :
    Exists fun owner => Exists fun left =>
      Forest.Detaches id (store.forest owner) taken left ∧
        without = store.withForest owner left := by
  rw [remove] at removed
  cases search : store.forests.rows.findSome? fun row =>
      (Forest.take? id row.2).map fun taken => (row.1, taken) with
  | none => rw [search] at removed; cases removed
  | some found =>
    rcases found with ⟨owner, block, left⟩
    rw [search] at removed
    cases removed
    rcases exists_of_search (fun actor forest => (Forest.take? id forest).map (actor, ·)) search
      with ⟨actor, hit⟩
    rcases Option.map_eq_some_iff.1 hit with ⟨pair, takenOut, same⟩
    cases same
    exact ⟨owner, left, Forest.detaches_of_take? takenOut, rfl⟩

/-- Whether a block of a kind that holds others is found in a program. -/
theorem admits_iff_kind :
    store.Admits parent actor <-> forall above, parent = some above ->
      Exists fun kind : Kind =>
        (Forest.find? above (store.forest actor)).map Block.kind = some kind ∧
          kind.holdsBlocks = true := by
  unfold Admits
  simp only [Option.map_eq_some_iff]
  constructor
  · intro admitted above same
    rcases admitted above same with ⟨target, found, holds⟩
    exact ⟨target.kind, ⟨target, found, rfl⟩, holds⟩
  · intro admitted above same
    rcases admitted above same with ⟨kind, ⟨target, found, rfl⟩, holds⟩
    exact ⟨target, found, holds⟩

/-- A tree that was taken out can be inserted where the move was admitted,
unless one of its identifiers is taken. -/
theorem admits_after_remove {owner : ActorId} {block : Block}
    (located : store.locate id = some (owner, block))
    (admitted : store.Admits parent actor)
    (outside : forall above, parent = some above -> above ∉ block.ids)
    (removed : store.remove id = .ok (taken, without)) (gone : without.holds id = false) :
    without.Admits parent actor := by
  rcases detaches_of_remove removed with ⟨origin, left, detached, rfl⟩
  have absent : forall other, id ∉ Forest.ids ((store.withForest origin left).forest other) := by
    intro other member
    rw [holds_iff.2 ⟨other, member⟩] at gone
    cases gone
  have found := find?_of_locate located
  -- no block of the name is left, so the search came upon the tree that was taken out
  have sameOwner : owner = origin := by
    by_contra different
    have kept := absent owner
    rw [forest_withForest, if_neg different] at kept
    exact kept (Forest.mem_ids_of_find? found)
  have notLeft : id ∉ Forest.ids left := by
    have own := absent origin
    rwa [forest_withForest_self] at own
  have sameBlock : block = taken := by
    rw [sameOwner, detached.find?_eq_some notLeft] at found
    exact (Option.some.inj found).symm
  rw [admits_iff_kind] at admitted ⊢
  intro above same
  rcases admitted above same with ⟨kind, foundKind, holds⟩
  refine ⟨kind, ?_, holds⟩
  rw [forest_withForest]
  split
  · rename_i own
    rw [detached.map_kind_find? (sameBlock ▸ outside above same), ← own]
    exact foundKind
  · exact foundKind

/-- An insertion of a tree with a placed identifier is refused for it. -/
theorem insert_of_holds (held : node.ids.find? store.holds = some twin) :
    store.insert node parent actor = .error (.taken twin) := by
  rw [insert, held]

/-- What holds of a store, of what a removal leaves of it and of every insertion
into that holds after a move, also after one that loses the tree. -/
theorem move_of_kept {Kept : Programs -> Prop} (start : Kept store)
    (removal : forall taken without, store.remove id = .ok (taken, without) -> Kept without)
    (insertion : forall node before next, Kept before ->
      before.insert node parent actor = .ok next -> Kept next) :
    Kept (store.move id actor parent).1 := by
  rw [move]
  cases store.locate id with
  | none => exact start
  | some pair =>
    dsimp only
    cases store.moveRefusal? pair.2 actor parent with
    | some refusal => exact start
    | none =>
      dsimp only
      cases removed : store.remove id with
      | error refusal => exact start
      | ok pair =>
        rcases pair with ⟨taken, without⟩
        have left := removal taken without removed
        dsimp only
        cases inserted : without.insert taken parent actor with
        | error refusal => exact left
        | ok moved => exact insertion taken without moved left inserted

/-- A refused move leaves the store as it was, or it loses the tree because an
identifier of the tree is also elsewhere. -/
theorem move_refused {after : Programs}
    (refused : store.move id actor parent = (after, .error refusal)) :
    after = store ∨
      Exists fun taken => Exists fun twin =>
        store.remove id = .ok (taken, after) ∧ twin ∈ taken.ids ∧ after.holds twin = true ∧
          refusal = .taken twin := by
  rw [move] at refused
  cases located : store.locate id with
  | none =>
    rw [located] at refused
    cases refused
    exact Or.inl rfl
  | some pair =>
    rcases pair with ⟨owner, block⟩
    rw [located] at refused
    dsimp only at refused
    cases early : store.moveRefusal? block actor parent with
    | some _ =>
      rw [early] at refused
      cases refused
      exact Or.inl rfl
    | none =>
      rw [early] at refused
      dsimp only at refused
      cases removed : store.remove id with
      | error _ =>
        rw [removed] at refused
        cases refused
        exact Or.inl rfl
      | ok pair =>
        rcases pair with ⟨taken, without⟩
        rw [removed] at refused
        dsimp only at refused
        cases held : taken.ids.find? without.holds with
        | some twin =>
          rw [insert_of_holds held] at refused
          cases refused
          exact Or.inr ⟨taken, twin, rfl, List.mem_of_find?_eq_some held,
            List.find?_some held, rfl⟩
        | none =>
          -- no identifier is in the way, so the insertion cannot have been refused
          exfalso
          rcases moveRefusal?_eq_none_iff.1 early with ⟨outside, admitted⟩
          have unheld : forall other, other ∈ taken.ids -> without.holds other = false :=
            fun other member => Bool.eq_false_iff.2 (List.find?_eq_none.1 held other member)
          have own : id ∈ taken.ids := by
            rcases detaches_of_remove removed with ⟨_, _, detached, _⟩
            rw [Block.ids_eq, detached.id_eq]
            exact List.mem_cons_self
          have stillAdmitted := admits_after_remove located admitted outside removed
            (unheld id own)
          have unplaced : forall other, other ∈ taken.ids -> forall someone,
              other ∉ Forest.ids (without.forest someone) := by
            intro other member someone placed
            have free := unheld other member
            rw [holds_iff.2 ⟨someone, placed⟩] at free
            cases free
          rw [insert_eq_ok_iff.2 ⟨unplaced, stillAdmitted, rfl⟩] at refused
          cases refused

/-- What a removal takes out of a store of distinct identifiers is gone. -/
theorem holds_of_remove (distinct : store.ids.Nodup)
    (removed : store.remove id = .ok (taken, without)) (member : twin ∈ taken.ids) :
    without.holds twin = false := by
  rcases (remove_eq_ok_iff distinct).1 removed with ⟨owner, found, rfl⟩
  have each := (nodup_ids_iff.1 distinct).1
  have apart := (nodup_ids_iff.1 distinct).2
  rw [Bool.eq_false_iff, ne_eq, holds_iff]
  rintro ⟨other, placed⟩
  rw [forest_withForest] at placed
  split at placed
  · exact Forest.notMem_prune_of_mem (each owner) found member placed
  · rename_i elsewhere
    have inOwner : twin ∈ Forest.ids (store.forest owner) :=
      (Forest.ids_perm_prune (each owner) found).mem_iff.2 (List.mem_append_left _ member)
    exact elsewhere (apart other owner twin placed inOwner)

end Programs

end SpriteStage
