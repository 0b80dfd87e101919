import SpriteStage.Proofs.Actor.Lookup
import SpriteStage.Proofs.Programs.Soundness
import SpriteStage.World.Edit

namespace SpriteStage

/-!
# What an edit of a world comes to

Every edit either leaves the world as it is or makes the one change stated
here.  The change of a move rests on the programs being sound: then a move
that takes a block out also puts it back in.
-/

namespace World

/-- What an edit of programs does at most: it changes programs, and forgets the
progress of a tree that left one. -/
inductive Reprogrammed (before : World) : World -> Prop
  | edited (programs : Programs) : Reprogrammed before { before with programs := programs }
  | forgotten (programs : Programs) (owner : ActorId) (node : Block) :
      Reprogrammed before { before with
        programs := programs
        run := before.run.map fun run => run.forgetTree owner node }

variable (world : World) {id : BlockId} {actor : ActorId}

theorem spawn_eq_ok {world next : World} {fresh : ActorId}
    (spawned : world.spawn fresh = .ok next) :
    Exists fun cast => world.cast.spawn fresh = .ok cast ∧ next = { world with cast := cast } := by
  unfold spawn at spawned
  cases drawn : world.cast.spawn fresh with
  | error refusal => rw [drawn] at spawned; cases spawned
  | ok cast =>
    rw [drawn] at spawned
    cases spawned
    exact ⟨cast, rfl, rfl⟩

/-- An edit of one actor does not have to be told apart from its refusal,
since an actor that is not in the cast cannot be changed. -/
theorem editCast_change (id : ActorId) (change : Actor -> Actor) :
    (world.editCast (world.cast.change id change)).world =
      { world with cast := world.cast.modify id change } := by
  unfold Cast.change
  split
  · rfl
  · rename_i absent
    rw [Cast.modify_of_absent change absent]
    rfl

theorem rename_world (id : ActorId) (name : String) :
    (world.rename id name).world =
      { world with cast := world.cast.modify id fun actor => actor.renamed name } :=
  world.editCast_change id _

theorem place_world (id : ActorId) (x y heading : Float) :
    (world.place id x y heading).world =
      { world with cast := world.cast.modify id fun actor => actor.placed x y (some heading) } :=
  world.editCast_change id _

theorem dismiss_cases (actor : ActorId) :
    (world.dismiss actor).world = world ∨
      Exists fun removed => Exists fun cast => world.cast.remove actor = .ok (removed, cast) ∧
        (world.dismiss actor).world =
          { world with
            cast := cast
            programs := world.programs.erase actor
            run := world.run.map fun run => run.forget actor } := by
  unfold dismiss
  cases taken : world.cast.remove actor with
  | error refusal => exact Or.inl rfl
  | ok pair => exact Or.inr ⟨pair.1, pair.2, rfl, rfl⟩

theorem insert_cases (node : Block) (parent : Option BlockId) (actor : ActorId) :
    (world.insert node parent actor).world = world ∨
      Exists fun programs => world.cast.contains actor = true ∧
        world.programs.insert node parent actor = .ok programs ∧
        (world.insert node parent actor).world = { world with programs := programs } := by
  unfold insert
  by_cases present : world.cast.contains actor = true
  · rw [if_pos present]
    cases inserted : world.programs.insert node parent actor with
    | error refusal => exact Or.inl rfl
    | ok programs => exact Or.inr ⟨programs, present, rfl, rfl⟩
  · rw [if_neg present]
    exact Or.inl rfl

theorem adjust_cases (id : BlockId) (name : String) (value : Parameter) :
    (world.adjust id name value).world = world ∨
      Exists fun programs => world.programs.adjust id name value = .ok programs ∧
        (world.adjust id name value).world = { world with programs := programs } := by
  unfold adjust
  cases adjusted : world.programs.adjust id name value with
  | error refusal => exact Or.inl rfl
  | ok programs => exact Or.inr ⟨programs, rfl, rfl⟩

/-- A removed block leaves its program pruned, and leaves no progress there. -/
theorem remove_cases (sound : world.programs.Sound) (id : BlockId) :
    (world.remove id).world = world ∨
      Exists fun owner => Exists fun node =>
        Forest.find? id (world.programs.forest owner) = some node ∧
          (world.remove id).world =
            { world with
              programs := world.programs.withForest owner
                (Forest.prune id (world.programs.forest owner))
              run := world.run.map fun run => run.forgetTree owner node } := by
  unfold remove Programs.owner?
  cases located : world.programs.locate id with
  | none => exact Or.inl rfl
  | some pair =>
    rcases pair with ⟨owner, node⟩
    have found := Programs.find?_of_locate located
    have removed := (Programs.remove_eq_ok_iff sound.unique).2 ⟨owner, found, rfl⟩
    refine Or.inr ⟨owner, node, found, ?_⟩
    simp only [Option.map_some, removed]

/-- A block that is moved leaves one program and joins a program.  Its
progress is forgotten when these are the programs of two actors. -/
theorem move_cases (sound : world.programs.Sound) (id : BlockId) (actor : ActorId)
    (parent : Option BlockId) :
    (world.move id actor parent).world = world ∨
      Exists fun owner => Exists fun node =>
        let without := world.programs.withForest owner
          (Forest.prune id (world.programs.forest owner))
        world.cast.contains actor = true ∧
          Forest.find? id (world.programs.forest owner) = some node ∧
          without.insert node parent actor =
            .ok (without.withForest actor (without.grown node parent actor)) ∧
          (world.move id actor parent).world =
            { world with
              programs := without.withForest actor (without.grown node parent actor)
              run := if owner = actor then world.run
                else world.run.map fun run => run.forgetTree owner node } := by
  unfold move Programs.owner?
  by_cases present : world.cast.contains actor = true
  · rw [if_pos present]
    cases located : world.programs.locate id with
    | none => exact Or.inl rfl
    | some pair =>
      rcases pair with ⟨owner, node⟩
      have found := Programs.find?_of_locate located
      rcases sound.move_cases id actor parent with
        ⟨refusal, same⟩ | ⟨origin, block, blockLocated, _, inserted, same⟩
      · left
        simp only [Option.map_some, same]
      · rw [located, Option.some.injEq, Prod.mk.injEq] at blockLocated
        rcases blockLocated with ⟨rfl, rfl⟩
        have arrived := (sound.withPruned found).locate_of_insert
          (Forest.nodup_ids_found (sound.distinct owner) found)
          (Forest.nested_of_mem (sound.nested owner) (Forest.mem_nodes_of_find? found)) inserted
        rw [Forest.id_of_find? found] at arrived
        refine Or.inr ⟨owner, node, present, found, inserted, ?_⟩
        simp only [Option.map_some, same, Programs.find?, arrived]
        split
        · rfl
        · simp only [Run.forgetTree, Forest.ids_relabel_tree]
  · rw [if_neg present]
    exact Or.inl rfl

/-! ## Any edit of programs -/

theorem reprogrammed_insert (node : Block) (parent : Option BlockId) (actor : ActorId) :
    Reprogrammed world (world.insert node parent actor).world := by
  rcases world.insert_cases node parent actor with same | ⟨programs, _, _, same⟩
  · rw [same]
    exact .edited world.programs
  · rw [same]
    exact .edited programs

/-- In any world, sound or not, a removal takes a tree out of the programs, and
forgets its progress with the actor that had it. -/
theorem remove_edits (id : BlockId) :
    (world.remove id).world = world ∨
      Exists fun owner => Exists fun node => Exists fun programs =>
        world.programs.owner? id = some owner ∧
          world.programs.remove id = .ok (node, programs) ∧
          (world.remove id).world =
            { world with
              programs := programs
              run := world.run.map fun run => run.forgetTree owner node } := by
  unfold remove
  cases owned : world.programs.owner? id with
  | none => exact Or.inl rfl
  | some owner =>
    dsimp only
    cases removed : world.programs.remove id with
    | error refusal => exact Or.inl rfl
    | ok pair => exact Or.inr ⟨owner, pair.1, pair.2, rfl, rfl, rfl⟩

/-- In any world, sound or not, a move is one of the programs, and may forget
the progress of a tree with the actor that had the block. -/
theorem move_edits (id : BlockId) (actor : ActorId) (parent : Option BlockId) :
    (world.move id actor parent).world = world ∨
      world.cast.contains actor = true ∧
        Exists fun owner => world.programs.owner? id = some owner ∧
          ((world.move id actor parent).world =
              { world with programs := (world.programs.move id actor parent).1 } ∨
            Exists fun node => (world.move id actor parent).world =
              { world with
                programs := (world.programs.move id actor parent).1
                run := world.run.map fun run => run.forgetTree owner node }) := by
  unfold move
  by_cases present : world.cast.contains actor = true
  · rw [if_pos present]
    cases owned : world.programs.owner? id with
    | none => exact Or.inl rfl
    | some owner =>
      refine Or.inr ⟨present, owner, rfl, ?_⟩
      rcases world.programs.move id actor parent with ⟨programs, refusal | done⟩
      · exact Or.inl rfl
      · dsimp only
        cases programs.find? id with
        | none => exact Or.inl rfl
        | some node =>
          dsimp only
          split
          · exact Or.inl rfl
          · exact Or.inr ⟨node, rfl⟩
  · rw [if_neg present]
    exact Or.inl rfl

theorem reprogrammed_remove (id : BlockId) : Reprogrammed world (world.remove id).world := by
  rcases world.remove_edits id with same | ⟨owner, node, programs, _, _, same⟩
  · rw [same]
    exact .edited world.programs
  · rw [same]
    exact .forgotten programs owner node

theorem reprogrammed_move (id : BlockId) (actor : ActorId) (parent : Option BlockId) :
    Reprogrammed world (world.move id actor parent).world := by
  rcases world.move_edits id actor parent with same | ⟨_, owner, _, same | ⟨node, same⟩⟩
  · rw [same]
    exact .edited world.programs
  · rw [same]
    exact .edited _
  · rw [same]
    exact .forgotten _ owner node

theorem reprogrammed_adjust (id : BlockId) (name : String) (value : Parameter) :
    Reprogrammed world (world.adjust id name value).world := by
  rcases world.adjust_cases id name value with same | ⟨programs, _, same⟩
  · rw [same]
    exact .edited world.programs
  · rw [same]
    exact .edited programs

end World

end SpriteStage
