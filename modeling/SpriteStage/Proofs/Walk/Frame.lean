import SpriteStage.Walk
import SpriteStage.Proofs.Progress.Lookup

namespace SpriteStage

/-!
# What a walk touches

The cases of one step of a walk, one equation each, and the frame of a walk:
it touches no entry of another actor, and none of a block that is not in the
forest it walks.  Beside the progress it changes only what moving and speaking
change.
-/

namespace Walk

variable {actor : ActorId} {now : Instant}

@[simp] theorem stepForest_nil (walk : Walk) : stepForest actor now [] walk = walk := rfl

@[simp] theorem stepForest_cons (node : Block) (rest : Forest) (walk : Walk) :
    stepForest actor now (node :: rest) walk =
      stepForest actor now rest (stepNode actor now node walk) := rfl

section Cases

variable {id : BlockId} {kind : Kind} {owner : ActorId} {parent : Option BlockId}
  {children : Forest} {walk : Walk}

theorem stepNode_of_finished (finished : walk.progress.isFinished actor id = true) :
    stepNode actor now ⟨id, kind, owner, parent, children⟩ walk = walk := by
  cases kind <;> rw [stepNode, if_pos finished]

theorem stepNode_motion {command : Motion}
    (unfinished : ¬ walk.progress.isFinished actor id = true) :
    stepNode actor now ⟨id, .motion command, owner, parent, children⟩ walk =
      (walk.move actor command).finish actor id (.motion command) := by
  rw [stepNode, if_neg unfinished]

theorem stepNode_look {command : Look}
    (unfinished : ¬ walk.progress.isFinished actor id = true) :
    stepNode actor now ⟨id, .look command, owner, parent, children⟩ walk =
      (walk.look actor now command).finish actor id (.look command) := by
  rw [stepNode, if_neg unfinished]

def opened (actor : ActorId) (id : BlockId) (kind : Kind) (walk : Walk) : Walk :=
  { walk with progress := walk.progress.ensure actor id kind }

def due (actor : ActorId) (id : BlockId) (kind : Kind) (walk : Walk) : Nat :=
  (walk.progress.entryOf actor id kind).target.getD 1

theorem stepNode_control_complete {command : Control}
    (unfinished : ¬ walk.progress.isFinished actor id = true)
    (complete : due actor id (.control command) walk ≤
      (walk.progress.entryOf actor id (.control command)).completed) :
    stepNode actor now ⟨id, .control command, owner, parent, children⟩ walk =
      (walk.opened actor id (.control command)).finish actor id (.control command) := by
  rw [stepNode, if_neg unfinished]
  exact if_pos complete

/-- Any other block that repeats its body walks through it once, and counts
the round when the body is done. -/
theorem stepNode_control_round {command : Control}
    (unfinished : ¬ walk.progress.isFinished actor id = true)
    (pending : ¬ due actor id (.control command) walk ≤
      (walk.progress.entryOf actor id (.control command)).completed) :
    stepNode actor now ⟨id, .control command, owner, parent, children⟩ walk =
      let inside := stepForest actor now children (walk.opened actor id (.control command))
      if inside.allFinished actor children then
        inside.closeRound actor id (.control command) (due actor id (.control command) walk)
          children
      else inside := by
  rw [stepNode, if_neg unfinished]
  exact if_neg pending

end Cases

/-! ## Entries that stay -/

section Frame

variable {other : ActorId} {block : BlockId}

@[simp] theorem progress_move (walk : Walk) (command : Motion) :
    (walk.move actor command).progress = walk.progress := rfl

@[simp] theorem progress_look (walk : Walk) (command : Look) :
    (walk.look actor now command).progress = walk.progress := by
  rw [look]
  split <;> rfl

theorem get?_finish_of_ne {walk : Walk} {id : BlockId} {kind : Kind}
    (outside : other ≠ actor ∨ block ≠ id) :
    (walk.finish actor id kind).progress.get? other block = walk.progress.get? other block :=
  Progress.get?_put_of_ne walk.progress _ outside

theorem get?_closeRound_of_notMem {walk : Walk} {id : BlockId} {kind : Kind} {target : Nat}
    {children : Forest}
    (outside : other ≠ actor ∨ (block ≠ id ∧ block ∉ Forest.ids children)) :
    (walk.closeRound actor id kind target children).progress.get? other block =
      walk.progress.get? other block := by
  have apart : other ≠ actor ∨ block ≠ id := outside.imp_right And.left
  unfold closeRound Progress.completeRound
  dsimp only
  split
  · rw [Progress.markFinished, Progress.get?_put_of_ne _ _ apart,
      Progress.get?_put_of_ne _ _ apart]
  · rw [Progress.get?_seed_of_notMem _ _ (outside.imp_right And.right),
      Progress.get?_put_of_ne _ _ apart]

/-- A walk touches only the entries that the blocks of its forest have with
its actor. -/
theorem get?_stepForest_of_notMem (forest : Forest) :
    forall walk : Walk, (other ≠ actor ∨ block ∉ Forest.ids forest) ->
      (stepForest actor now forest walk).progress.get? other block =
        walk.progress.get? other block := by
  induction forest using Forest.induction with
  | nil => exact fun _ _ => rfl
  | cons id kind owner parent children rest below after =>
    intro walk outside
    simp only [Forest.ids_cons, List.mem_cons, List.mem_append, not_or] at outside
    have notRoot : other ≠ actor ∨ block ≠ id := outside.imp_right fun apart => apart.1
    have notChildren := outside.imp_right fun apart => apart.2.1
    rw [stepForest_cons, after _ (outside.imp_right fun apart => apart.2.2)]
    by_cases finished : walk.progress.isFinished actor id = true
    · rw [stepNode_of_finished finished]
    · cases kind with
      | motion command => rw [stepNode_motion finished, get?_finish_of_ne notRoot, progress_move]
      | look command => rw [stepNode_look finished, get?_finish_of_ne notRoot, progress_look]
      | control command =>
        have entered : (walk.opened actor id (.control command)).progress.get? other block =
            walk.progress.get? other block := Progress.get?_ensure_of_ne _ _ notRoot
        by_cases complete : due actor id (.control command) walk ≤
            (walk.progress.entryOf actor id (.control command)).completed
        · rw [stepNode_control_complete finished complete, get?_finish_of_ne notRoot, entered]
        · rw [stepNode_control_round finished complete]
          dsimp only
          split
          · rw [get?_closeRound_of_notMem (outside.imp_right fun apart => ⟨apart.1, apart.2.1⟩),
              below _ notChildren, entered]
          · rw [below _ notChildren, entered]

/-- A walk through the first tree of a forest leaves the entries of the other
trees alone. -/
theorem get?_stepNode_of_mem_rest {node : Block} {rest : Forest}
    (distinct : (Forest.ids (node :: rest)).Nodup) (walk : Walk)
    (member : block ∈ Forest.ids rest) :
    (stepNode actor now node walk).progress.get? actor block =
      walk.progress.get? actor block := by
  apply get?_stepForest_of_notMem [node] walk
  exact Or.inr fun inFirst => Forest.notMem_ids_rest distinct inFirst member

/-- A walk through the other trees of a forest leaves the entries of the first
one alone. -/
theorem get?_stepForest_of_mem_first {node : Block} {rest : Forest}
    (distinct : (Forest.ids (node :: rest)).Nodup) (walk : Walk)
    (member : block ∈ Forest.ids [node]) :
    (stepForest actor now rest walk).progress.get? actor block =
      walk.progress.get? actor block :=
  get?_stepForest_of_notMem rest walk (Or.inr (Forest.notMem_ids_rest distinct member))

/-- Inside the body of a block the entry of the block is as it was outside. -/
theorem get?_inside {id : BlockId} {kind : Kind} {children : Forest}
    (apart : id ∉ Forest.ids children) (walk : Walk) :
    (stepForest actor now children (walk.opened actor id kind)).progress.get? actor id =
      some (walk.progress.entryOf actor id kind) := by
  rw [get?_stepForest_of_notMem _ _ (Or.inr apart), opened, Progress.get?_ensure_self]

end Frame

/-- What moving and speaking keep, and what does not depend on the progress,
a walk keeps. -/
theorem stepForest_of_preserved (Invariant : Walk -> Prop)
    (ofProgress : forall (walk : Walk) (progress : Progress), Invariant walk ->
      Invariant { walk with progress := progress })
    (ofMove : forall walk command, Invariant walk -> Invariant (walk.move actor command))
    (ofLook : forall walk command, Invariant walk -> Invariant (walk.look actor now command))
    (forest : Forest) :
    forall walk : Walk, Invariant walk -> Invariant (stepForest actor now forest walk) := by
  induction forest using Forest.induction with
  | nil => exact fun _ holds => holds
  | cons id kind owner parent children rest below after =>
    intro walk holds
    rw [stepForest_cons]
    apply after
    by_cases finished : walk.progress.isFinished actor id = true
    · rw [stepNode_of_finished finished]
      exact holds
    · cases kind with
      | motion command =>
        rw [stepNode_motion finished]
        exact ofProgress _ _ (ofMove walk command holds)
      | look command =>
        rw [stepNode_look finished]
        exact ofProgress _ _ (ofLook walk command holds)
      | control command =>
        by_cases complete : due actor id (.control command) walk ≤
            (walk.progress.entryOf actor id (.control command)).completed
        · rw [stepNode_control_complete finished complete]
          exact ofProgress _ _ (ofProgress _ _ holds)
        · have entered : Invariant (walk.opened actor id (.control command)) :=
            ofProgress walk _ holds
          have inside := below _ entered
          rw [stepNode_control_round finished complete]
          dsimp only
          split
          · unfold closeRound
            dsimp only
            split
            · exact ofProgress _ _ inside
            · exact ofProgress _ _ inside
          · exact inside

end Walk

end SpriteStage
