import Mathlib.Data.List.Pairwise
import SpriteStage.Proofs.Block.Revision
import SpriteStage.Proofs.Table

namespace SpriteStage

/-!
# Looking blocks up in the store

The store is seen through the forest of each actor.  A block is located just
when some forest has it, and each edit is described by the forests after it.
-/

namespace Programs

variable {store next : Programs} {actor other : ActorId} {id : BlockId}

def ids (store : Programs) : List BlockId :=
  store.forests.rows.flatMap fun row => Forest.ids row.2

@[simp] theorem forest_empty (actor : ActorId) : empty.forest actor = [] := rfl

@[simp] theorem forest_withForest (store : Programs) (actor other : ActorId)
    (forest : Forest) :
    (store.withForest actor forest).forest other =
      if other = actor then forest else store.forest other := by
  rw [Programs.forest, withForest, Table.get?_set]
  by_cases same : other = actor <;> simp [same, Programs.forest]

theorem forest_withForest_self (store : Programs) (actor : ActorId) (forest : Forest) :
    (store.withForest actor forest).forest actor = forest := by
  rw [forest_withForest, if_pos rfl]

@[simp] theorem forest_erase (store : Programs) (actor other : ActorId) :
    (store.erase actor).forest other = if other = actor then [] else store.forest other := by
  rw [Programs.forest, erase, Table.get?_erase]
  by_cases same : other = actor <;> simp [same, Programs.forest]

theorem forest_exchange {one two : ActorId} (different : one ≠ two) :
    (store.exchange one two).forest other =
      if other = two then Forest.relabel two none (store.forest one)
      else if other = one then Forest.relabel one none (store.forest two)
      else store.forest other := by
  rw [exchange, if_neg different, forest_withForest, forest_withForest]

theorem forest_of_mem {row : ActorId × Forest} (member : row ∈ store.forests.rows) :
    store.forest row.1 = row.2 := by
  rw [forest, Table.mem_rows_iff.1 member, Option.getD_some]

theorem row_of_ne_nil (blocks : store.forest actor ≠ []) :
    (actor, store.forest actor) ∈ store.forests.rows := by
  rw [Table.mem_rows_iff]
  rw [forest] at blocks ⊢
  cases found : store.forests.get? actor with
  | none =>
    rw [found] at blocks
    exact absurd rfl blocks
  | some forest => rfl

theorem row_of_mem_ids (member : id ∈ Forest.ids (store.forest actor)) :
    (actor, store.forest actor) ∈ store.forests.rows :=
  row_of_ne_nil (Forest.ne_nil_of_mem_ids member)

/-! ## The programs that are not empty -/

theorem nodup_keys_programs (store : Programs) : (store.programs.map Prod.fst).Nodup :=
  store.forests.distinct.sublist (List.filter_sublist.map _)

theorem mem_programs_iff {forest : Forest} :
    (actor, forest) ∈ store.programs <-> forest ≠ [] ∧ store.forest actor = forest := by
  rw [programs, List.mem_filter, Bool.not_eq_true', List.isEmpty_eq_false_iff]
  constructor
  · rintro ⟨row, blocks⟩
    exact ⟨blocks, forest_of_mem row⟩
  · rintro ⟨blocks, rfl⟩
    exact ⟨row_of_ne_nil blocks, blocks⟩

/-- An actor without a row has no blocks. -/
theorem getD_lookup_programs (store : Programs) (actor : ActorId) :
    (Table.lookup actor store.programs).getD [] = store.forest actor := by
  cases found : Table.lookup actor store.programs with
  | some forest => exact (mem_programs_iff.1 (Table.mem_of_lookup found)).2.symm
  | none =>
    by_contra blocks
    have row := mem_programs_iff.2 ⟨Ne.symm blocks, rfl⟩
    rw [Table.lookup_of_mem store.nodup_keys_programs row] at found
    cases found

/-! ## Searching all programs -/

section Search

variable {Found : Type} {found : Found}

/-- What a search finds is in the program of some actor. -/
theorem exists_of_search (look : ActorId -> Forest -> Option Found)
    (hit : store.forests.rows.findSome? (fun row => look row.1 row.2) = some found) :
    Exists fun actor => look actor (store.forest actor) = some found := by
  rcases List.exists_of_findSome?_eq_some hit with ⟨row, member, here⟩
  exact ⟨row.1, by rw [forest_of_mem member, here]⟩

/-- A search that hits in one program at most finds what there is to be found. -/
theorem search_eq_some_iff (look : ActorId -> Forest -> Option Found)
    (nothing : forall actor, look actor [] = none)
    (alone : forall first second, (look first (store.forest first)).isSome ->
      (look second (store.forest second)).isSome -> first = second) :
    store.forests.rows.findSome? (fun row => look row.1 row.2) = some found <->
      Exists fun actor => look actor (store.forest actor) = some found := by
  refine ⟨exists_of_search look, ?_⟩
  rintro ⟨actor, there⟩
  have row : (actor, store.forest actor) ∈ store.forests.rows := by
    apply row_of_ne_nil
    intro none
    rw [none, nothing] at there
    cases there
  cases search : store.forests.rows.findSome? fun row => look row.1 row.2 with
  | none =>
    rw [List.findSome?_eq_none_iff.1 search _ row] at there
    cases there
  | some other =>
    rcases exists_of_search look search with ⟨first, here⟩
    have same := alone first actor (by rw [here]; rfl) (by rw [there]; rfl)
    rw [← there, ← same, here]

end Search

theorem find?_of_locate {node : Block} (found : store.locate id = some (actor, node)) :
    Forest.find? id (store.forest actor) = some node := by
  rcases exists_of_search (fun actor forest => (Forest.find? id forest).map (actor, ·)) found with
    ⟨owner, hit⟩
  rcases Option.map_eq_some_iff.1 hit with ⟨inside, insideFound, pair⟩
  rw [Prod.mk.injEq] at pair
  rw [← pair.1, ← pair.2, insideFound]

theorem locate_eq_none_iff :
    store.locate id = none <-> forall actor, id ∉ Forest.ids (store.forest actor) := by
  rw [locate, List.findSome?_eq_none_iff]
  constructor
  · intro missed actor member
    have nothing := missed _ (row_of_mem_ids member)
    rw [Option.map_eq_none_iff, Forest.find?_eq_none_iff] at nothing
    exact nothing member
  · intro absent row member
    rw [Option.map_eq_none_iff, Forest.find?_eq_none_iff, ← forest_of_mem member]
    exact absent row.1

theorem holds_iff : store.holds id = true <->
    Exists fun actor => id ∈ Forest.ids (store.forest actor) := by
  rw [holds, Option.isSome_iff_ne_none, ne_eq, locate_eq_none_iff]
  simp

/-- No identifier is that of two blocks, within a program or in two of them. -/
theorem nodup_ids_iff :
    store.ids.Nodup <-> (forall actor, (Forest.ids (store.forest actor)).Nodup) ∧
      forall one two id, id ∈ Forest.ids (store.forest one) ->
        id ∈ Forest.ids (store.forest two) -> one = two := by
  rw [ids, List.nodup_flatMap]
  constructor
  · rintro ⟨each, apart⟩
    refine ⟨?_, ?_⟩
    · intro actor
      rw [forest]
      cases found : store.forests.get? actor with
      | none => exact List.nodup_nil
      | some forest => exact each _ (Table.mem_rows_iff.2 found)
    · intro one two id inOne inTwo
      by_contra different
      have symmetric : Std.Symm (Function.onFun List.Disjoint
          fun row : ActorId × Forest => Forest.ids row.2) :=
        ⟨fun _ _ => List.disjoint_symm⟩
      have disjoint := apart.forall (row_of_mem_ids inOne) (row_of_mem_ids inTwo)
        fun same => different (congrArg Prod.fst same)
      exact disjoint inOne inTwo
  · rintro ⟨each, apart⟩
    refine ⟨?_, ?_⟩
    · intro row member
      rw [← forest_of_mem member]
      exact each row.1
    · have keys : store.forests.rows.Pairwise fun one two => one.1 ≠ two.1 :=
        List.pairwise_map.1 store.forests.distinct
      apply keys.imp_of_mem
      intro one two oneMember twoMember different id inOne inTwo
      change id ∈ Forest.ids one.2 at inOne
      change id ∈ Forest.ids two.2 at inTwo
      rw [← forest_of_mem oneMember] at inOne
      rw [← forest_of_mem twoMember] at inTwo
      exact different (apart one.1 two.1 id inOne inTwo)

/-! ## What an edit comes to -/

/-- The forest of an actor after a tree is inserted at its end, or at the end
of the children of a block of it. -/
def grown (store : Programs) (node : Block) (parent : Option BlockId) (actor : ActorId) :
    Forest :=
  match parent with
  | none => store.forest actor ++ [node.relabel actor none]
  | some above =>
    updated (store.forest actor) above fun target =>
      target.adopt (node.relabel actor (some above))

/-- The place of an insertion: the top level, or a block of the actor's
program that holds others. -/
def Admits (store : Programs) (parent : Option BlockId) (actor : ActorId) : Prop :=
  forall above, parent = some above ->
    Exists fun target => Forest.find? above (store.forest actor) = some target ∧
      target.kind.holdsBlocks = true

/-- An insertion succeeds just when no block of the tree is placed and the
place admits it. -/
theorem insert_eq_ok_iff {node : Block} {parent : Option BlockId} :
    store.insert node parent actor = .ok next <->
      (forall id, id ∈ node.ids -> forall other, id ∉ Forest.ids (store.forest other)) ∧
        store.Admits parent actor ∧
        next = store.withForest actor (store.grown node parent actor) := by
  have unplaced : node.ids.find? store.holds = none <->
      forall id, id ∈ node.ids -> forall other, id ∉ Forest.ids (store.forest other) := by
    simp only [List.find?_eq_none, holds_iff, not_exists]
  rw [← unplaced, insert]
  cases node.ids.find? store.holds with
  | some existing => simp
  | none =>
    cases parent with
    | none =>
      constructor
      · rintro ⟨⟩
        refine ⟨rfl, ?_, rfl⟩
        rintro _ ⟨⟩
      · rintro ⟨_, _, rfl⟩
        rfl
    | some above =>
      dsimp only
      cases found : Forest.find? above (store.forest actor) with
      | none => simp [Admits, found]
      | some target =>
        by_cases holds : target.kind.holdsBlocks = true
        · dsimp only
          rw [if_pos holds]
          constructor
          · rintro ⟨⟩
            refine ⟨rfl, ?_, rfl⟩
            rintro _ ⟨⟩
            exact ⟨target, found, holds⟩
          · rintro ⟨_, _, rfl⟩
            rfl
        · simp [Admits, found, holds]

/-- Where identifiers are distinct, removing a block leaves its forest pruned. -/
theorem remove_eq_ok_iff {taken : Block} (distinct : store.ids.Nodup) :
    store.remove id = .ok (taken, next) <->
      Exists fun owner => Forest.find? id (store.forest owner) = some taken ∧
        next = store.withForest owner (Forest.prune id (store.forest owner)) := by
  have each := (nodup_ids_iff.1 distinct).1
  have apart := (nodup_ids_iff.1 distinct).2
  let look := fun (actor : ActorId) forest => (Forest.take? id forest).map (actor, ·)
  have hits : forall owner, look owner (store.forest owner) =
      (Forest.find? id (store.forest owner)).map fun node =>
        (owner, node, Forest.prune id (store.forest owner)) := by
    intro owner
    dsimp only [look]
    rw [Forest.take?_eq_find? (each owner), Option.map_map]
    rfl
  have alone : forall first second, (look first (store.forest first)).isSome ->
      (look second (store.forest second)).isSome -> first = second := by
    intro first second inFirst inSecond
    rw [hits, Option.isSome_map] at inFirst inSecond
    rcases Option.isSome_iff_exists.1 inFirst with ⟨node, foundFirst⟩
    rcases Option.isSome_iff_exists.1 inSecond with ⟨other, foundSecond⟩
    exact apart first second id (Forest.mem_ids_of_find? foundFirst)
      (Forest.mem_ids_of_find? foundSecond)
  have search : forall owner left, store.forests.rows.findSome? (fun row => look row.1 row.2) =
      some (owner, taken, left) <-> Forest.find? id (store.forest owner) = some taken ∧
        Forest.prune id (store.forest owner) = left := by
    intro owner left
    rw [search_eq_some_iff look (fun _ => rfl) alone]
    simp only [hits, Option.map_eq_some_iff, Prod.mk.injEq]
    constructor
    · rintro ⟨_, _, found, rfl, rfl, pruned⟩
      exact ⟨found, pruned⟩
    · rintro ⟨found, pruned⟩
      exact ⟨owner, taken, found, rfl, rfl, pruned⟩
  rw [remove]
  constructor
  · intro removed
    split at removed
    · rename_i owner block left hit
      cases removed
      rcases (search owner left).1 hit with ⟨found, rfl⟩
      exact ⟨owner, found, rfl⟩
    · cases removed
  · rintro ⟨owner, found, rfl⟩
    rw [(search owner _).2 ⟨found, rfl⟩]

/-- A move is not refused beforehand just when its destination admits blocks
and is not inside the block that is moved. -/
theorem moveRefusal?_eq_none_iff {block : Block} {parent : Option BlockId} :
    store.moveRefusal? block actor parent = none <->
      (forall above, parent = some above -> above ∉ block.ids) ∧ store.Admits parent actor := by
  cases parent with
  | none => simp [moveRefusal?, Admits]
  | some above =>
    rw [moveRefusal?]
    by_cases inside : above ∈ block.ids
    · rw [if_pos (Block.contains_iff.2 inside)]
      simp [inside]
    · rw [if_neg (Block.contains_iff.not.2 inside)]
      cases found : Forest.find? above (store.forest actor) with
      | none => simp [Admits, found]
      | some target => simp [Admits, found, inside]

/-- Setting a parameter succeeds just when the block is there and its kind
takes the parameter; it revises the program that has the block. -/
theorem adjust_eq_ok {name : String} {value : Parameter}
    (adjusted : store.adjust id name value = .ok next) :
    Exists fun owner => Exists fun node => Exists fun kind =>
      store.locate id = some (owner, node) ∧ node.kind.set name value = .ok kind ∧
        next = store.withForest owner
          (updated (store.forest owner) id fun node => node.withKind kind) := by
  rw [adjust] at adjusted
  cases located : store.locate id with
  | none => rw [located] at adjusted; cases adjusted
  | some pair =>
    rcases pair with ⟨owner, node⟩
    rw [located] at adjusted
    dsimp only at adjusted
    cases setting : node.kind.set name value with
    | error refusal => rw [setting] at adjusted; cases adjusted
    | ok kind =>
      rw [setting] at adjusted
      cases adjusted
      exact ⟨owner, node, kind, rfl, setting, rfl⟩

end Programs

end SpriteStage
