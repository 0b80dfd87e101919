import SpriteStage.Proofs.Programs.Refusal
import SpriteStage.Proofs.World.Soundness

namespace SpriteStage

/-!
# Refused operations

A refused operation leaves the world as it was: the cast, all programs, and
everything that a run holds.  This is not asked of worlds that allowed
histories reach, it holds of every world, with one exception.  A tree may be
inserted although two of its blocks have the same identifier.  When a part of
such a tree is moved and its namesake stays behind, the part is taken out and
then refused its new place, and so it is lost.
-/

def Edited.refusal? {Result : Type} (edited : Edited Result) : Option Refusal :=
  match edited.outcome with
  | .ok _ => none
  | .error refusal => some refusal

namespace Operation

/-- Why an operation was refused, if it was.  Only edits are. -/
def refusal? (world : World) : Operation -> Option Refusal
  | .rename actor name => (world.rename actor name).refusal?
  | .place actor x y heading => (world.place actor x y heading).refusal?
  | .dismiss actor => (world.dismiss actor).refusal?
  | .insert node parent actor => (world.insert node parent actor).refusal?
  | .remove block => (world.remove block).refusal?
  | .move block actor parent => (world.move block actor parent).refusal?
  | .adjust block name value => (world.adjust block name value).refusal?
  | _ => none

/-- A refused move that lost the tree it took out: an identifier of the tree
is also that of a block outside it. -/
inductive LosesTree (world : World) : Operation -> Refusal -> Prop
  | move {id : BlockId} {actor : ActorId} {parent : Option BlockId} {taken : Block}
      {without : Programs} {twin : BlockId}
      (removed : world.programs.remove id = .ok (taken, without))
      (inside : twin ∈ taken.ids) (outside : without.holds twin = true)
      (lost : (world.move id actor parent).world = { world with programs := without }) :
      LosesTree world (.move id actor parent) (.program (.taken twin))

/-- A tree is lost only where two blocks have the same identifier. -/
theorem LosesTree.not_nodup {world : World} {operation : Operation} {refusal : Refusal}
    (loses : LosesTree world operation refusal) : ¬ world.programs.ids.Nodup := by
  cases loses with
  | move removed inside outside lost =>
    intro distinct
    rw [Programs.holds_of_remove distinct removed inside] at outside
    cases outside

end Operation

namespace World

variable {world : World} {refusal : Refusal} {Result : Type}

theorem editCast_refused {edit : Except CastRefusal Cast}
    (refused : (world.editCast edit).refusal? = some refusal) :
    (world.editCast edit).world = world := by
  cases edit with
  | error cause => rfl
  | ok cast => cases refused

theorem editPrograms_refused {result : Result} {edit : Except ProgramRefusal Programs}
    (refused : (world.editPrograms result edit).refusal? = some refusal) :
    (world.editPrograms result edit).world = world := by
  cases edit with
  | error cause => rfl
  | ok programs => cases refused

theorem dismiss_refused {actor : ActorId}
    (refused : (world.dismiss actor).refusal? = some refusal) :
    (world.dismiss actor).world = world := by
  unfold dismiss at refused ⊢
  cases taken : world.cast.remove actor with
  | error cause => rfl
  | ok pair =>
    rw [taken] at refused
    cases refused

theorem insert_refused {node : Block} {parent : Option BlockId} {actor : ActorId}
    (refused : (world.insert node parent actor).refusal? = some refusal) :
    (world.insert node parent actor).world = world := by
  unfold insert at refused ⊢
  split
  · rename_i present
    rw [if_pos present] at refused
    exact editPrograms_refused refused
  · rfl

theorem remove_refused {id : BlockId} (refused : (world.remove id).refusal? = some refusal) :
    (world.remove id).world = world := by
  unfold remove at refused ⊢
  cases owned : world.programs.owner? id with
  | none => rfl
  | some owner =>
    rw [owned] at refused
    dsimp only at refused ⊢
    cases removed : world.programs.remove id with
    | error cause => rfl
    | ok pair =>
      rw [removed] at refused
      cases refused

/-- A refused move changes nothing, or it loses the tree it took out. -/
theorem move_refused {id : BlockId} {actor : ActorId} {parent : Option BlockId}
    (refused : (world.move id actor parent).refusal? = some refusal) :
    (world.move id actor parent).world = world ∨
      Operation.LosesTree world (.move id actor parent) refusal := by
  have moved : forall owner cause after, world.cast.contains actor = true ->
      world.programs.owner? id = some owner ->
      world.programs.move id actor parent = (after, .error cause) ->
        world.move id actor parent =
          ⟨{ world with programs := after }, .error (.program cause)⟩ := by
    intro owner cause after present owned result
    rw [move, if_pos present, owned]
    dsimp only
    rw [result]
  by_cases present : world.cast.contains actor = true
  · cases owned : world.programs.owner? id with
    | none =>
      left
      rw [move, if_pos present, owned]
      rfl
    | some owner =>
      cases result : world.programs.move id actor parent with
      | mk after outcome =>
        cases outcome with
        | error cause =>
          have same := moved owner cause after present owned result
          rw [same] at refused
          cases refused
          rcases Programs.move_refused result with unchanged | lost
          · left
            rw [same, unchanged]
          · rcases lost with ⟨taken, twin, removed, inside, outside, rfl⟩
            exact Or.inr (.move removed inside outside (by rw [same]))
        | ok done =>
          exfalso
          rw [move, if_pos present, owned] at refused
          dsimp only at refused
          rw [result] at refused
          dsimp only at refused
          split at refused
          · split at refused <;> cases refused
          · cases refused
  · left
    rw [move, if_neg present]
    rfl

theorem refused_cases {operation : Operation}
    (refused : operation.refusal? world = some refusal) :
    operation.apply world = world ∨ Operation.LosesTree world operation refusal := by
  cases operation with
  | rename actor name => exact Or.inl (editCast_refused refused)
  | place actor x y heading => exact Or.inl (editCast_refused refused)
  | dismiss actor => exact Or.inl (dismiss_refused refused)
  | insert node parent actor => exact Or.inl (insert_refused refused)
  | remove block => exact Or.inl (remove_refused refused)
  | move block actor parent => exact move_refused refused
  | adjust block name value => exact Or.inl (editPrograms_refused refused)
  | _ => cases refused

/-- A refused operation changes nothing, in any world, except that a move can
lose the tree it took out.  Where no two blocks have the same identifier, a
refused operation always changes nothing.

The exception is not needed for any other operation than a move, and the loss is
stated as exactly as the rest: the tree that a removal would have taken is gone
and nothing else. -/
theorem refused_keeps_world (world : World) (operation : Operation) (refusal : Refusal)
    (refused : operation.refusal? world = some refusal) :
    (operation.apply world = world ∨ Operation.LosesTree world operation refusal) ∧
      (world.programs.ids.Nodup -> operation.apply world = world) := by
  have either := refused_cases refused
  exact ⟨either, fun distinct => either.resolve_right fun loses => loses.not_nodup distinct⟩

section Sample

/-- A block cannot be moved below itself, and the refusal leaves it where it is. -/
theorem refused_cycle_keeps_sampleTree :
    let world := (standard ⟨Uuid.ofNat 1⟩ ⟨Uuid.ofNat 2⟩ Settings.standard 0).after
      [.insert sampleTree none ⟨Uuid.ofNat 1⟩, .start]
    let cycle := Operation.move ⟨Uuid.ofNat 1⟩ ⟨Uuid.ofNat 1⟩ (some ⟨Uuid.ofNat 2⟩)
    let refusal := Refusal.program (.cycle ⟨Uuid.ofNat 1⟩ ⟨Uuid.ofNat 2⟩)
    cycle.refusal? world = some refusal ∧ cycle.apply world = world := by
  intro world cycle refusal
  have refused : cycle.refusal? world = some refusal := by decide
  have distinct : world.programs.ids.Nodup := by decide
  exact ⟨refused, (refused_keeps_world world cycle refusal refused).2 distinct⟩

/-- A loop around two words of the same name. -/
def sampleTwins : Block :=
  ⟨⟨Uuid.ofNat 1⟩, .control (.times 2), .nobody, none,
    [⟨⟨Uuid.ofNat 2⟩, .look (.say "first"), .nobody, none, []⟩,
      ⟨⟨Uuid.ofNat 2⟩, .look (.say "second"), .nobody, none, []⟩]⟩

/-- A twin that is moved to the top level of its own program is refused there
because of the other one, and is lost: the refused move changes the program. -/
theorem refused_move_loses_twin :
    let created := standard ⟨Uuid.ofNat 1⟩ ⟨Uuid.ofNat 2⟩ Settings.standard 0
    let world := created.after [.insert sampleTwins none ⟨Uuid.ofNat 1⟩]
    let move := Operation.move ⟨Uuid.ofNat 2⟩ ⟨Uuid.ofNat 1⟩ none
    Created created ∧ move.refusal? world = some (.program (.taken ⟨Uuid.ofNat 2⟩)) ∧
      (move.apply world).programs.forest ⟨Uuid.ofNat 1⟩ ≠
        world.programs.forest ⟨Uuid.ofNat 1⟩ := by
  intro created world move
  refine ⟨.standard _ _ _ _ (by decide), by decide, ?_⟩
  intro same
  have sizes : Forest.count ((move.apply world).programs.forest ⟨Uuid.ofNat 1⟩) = 2 ∧
      Forest.count (world.programs.forest ⟨Uuid.ofNat 1⟩) = 3 := by decide
  rw [same] at sizes
  exact absurd (sizes.1.symm.trans sizes.2) (by decide)

end Sample

end World

end SpriteStage
