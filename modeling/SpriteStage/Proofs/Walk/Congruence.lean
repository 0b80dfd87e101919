import SpriteStage.Proofs.Walk.Execution

namespace SpriteStage

/-!
# What a walk depends on

Of the entries of a run, a walk reads and writes only those of its actor, and
what it does with them depends neither on the cast nor on the time.  So two
walks of one forest that begin with the same entries of the actor execute the
same commands and end with the same entries of the actor, whatever the other
actors have come to in the two runs.
-/

namespace Progress

variable {actor : ActorId} {first second : Progress} {id : BlockId} {kind : Kind}

/-- Whether an actor has the same entries in two tables. -/
def Alike (actor : ActorId) (first second : Progress) : Prop :=
  forall block, first.get? actor block = second.get? actor block

namespace Alike

theorem isFinished (alike : Alike actor first second) (id : BlockId) :
    first.isFinished actor id = second.isFinished actor id := by
  rw [Progress.isFinished, Progress.isFinished, alike id]

theorem entryOf (alike : Alike actor first second) (id : BlockId) (kind : Kind) :
    first.entryOf actor id kind = second.entryOf actor id kind := entryOf_congr (alike id)

theorem put (alike : Alike actor first second) (id : BlockId) (entry : Entry) :
    Alike actor (first.put actor id entry) (second.put actor id entry) := by
  intro block
  rw [get?_put, get?_put, alike block]

theorem ensure (alike : Alike actor first second) (id : BlockId) (kind : Kind) :
    Alike actor (first.ensure actor id kind) (second.ensure actor id kind) := by
  unfold Progress.ensure
  rw [← alike id]
  cases first.get? actor id with
  | none => exact alike.put id _
  | some entry => exact alike

theorem markFinished (alike : Alike actor first second) (id : BlockId) (kind : Kind) :
    Alike actor (first.markFinished actor id kind) (second.markFinished actor id kind) := by
  unfold Progress.markFinished
  rw [alike.entryOf id kind]
  exact alike.put id _

theorem completeRound (alike : Alike actor first second) (id : BlockId) (kind : Kind) :
    (first.completeRound actor id kind).1 = (second.completeRound actor id kind).1 ∧
      Alike actor (first.completeRound actor id kind).2 (second.completeRound actor id kind).2 := by
  unfold Progress.completeRound
  rw [alike.entryOf id kind]
  exact ⟨rfl, alike.put id _⟩

theorem seed (forest : Forest) :
    forall {first second : Progress}, Alike actor first second ->
      Alike actor (first.seed actor forest) (second.seed actor forest) := by
  induction forest using Forest.induction with
  | nil => exact fun alike => alike
  | cons id kind owner parent children rest below after =>
    intro first second alike
    rw [seed_cons, seed_cons]
    exact after (below (alike.put id _))

end Alike

end Progress

namespace Walk

variable {actor : ActorId} {now later : Instant} {first second : Walk}

theorem allFinished_congr (alike : Progress.Alike actor first.progress second.progress)
    (forest : Forest) : first.allFinished actor forest = second.allFinished actor forest := by
  unfold allFinished
  simp only [alike.isFinished]

theorem closeRound_congr (alike : Progress.Alike actor first.progress second.progress)
    (id : BlockId) (kind : Kind) (target : Nat) (children : Forest) :
    Progress.Alike actor (first.closeRound actor id kind target children).progress
      (second.closeRound actor id kind target children).progress := by
  have counted := alike.completeRound id kind
  unfold closeRound
  dsimp only
  rw [counted.1]
  split
  · exact counted.2.markFinished id kind
  · exact counted.2.seed children

/-- Whether walks through a forest that begin with the same entries of an actor
execute the same commands and end with the same entries of it. -/
def Settled (actor : ActorId) (now later : Instant) (forest : Forest) : Prop :=
  forall first second : Walk, Progress.Alike actor first.progress second.progress ->
    executedForest actor now forest first = executedForest actor later forest second ∧
      Progress.Alike actor (stepForest actor now forest first).progress
        (stepForest actor later forest second).progress

variable {id : BlockId} {owner : ActorId} {parent : Option BlockId} {children : Forest}

theorem stepNode_control_congr {command : Control} (below : Settled actor now later children)
    (alike : Progress.Alike actor first.progress second.progress)
    (unfinished : ¬ first.progress.isFinished actor id = true) :
    let node : Block := ⟨id, .control command, owner, parent, children⟩
    executedNode actor now node first = executedNode actor later node second ∧
      Progress.Alike actor (stepNode actor now node first).progress
        (stepNode actor later node second).progress := by
  intro node
  have unfinishedToo : ¬ second.progress.isFinished actor id = true :=
    alike.isFinished id ▸ unfinished
  have sameEntry := alike.entryOf id (.control command)
  have sameDue : due actor id (.control command) first =
      due actor id (.control command) second := by
    rw [due, due, sameEntry]
  have opened : Progress.Alike actor (first.opened actor id (.control command)).progress
      (second.opened actor id (.control command)).progress :=
    alike.ensure id (.control command)
  by_cases complete : due actor id (.control command) first ≤
      (first.progress.entryOf actor id (.control command)).completed
  · have completeToo := complete
    rw [sameDue, sameEntry] at completeToo
    rw [executedNode_control_complete unfinished complete,
      executedNode_control_complete unfinishedToo completeToo,
      stepNode_control_complete unfinished complete,
      stepNode_control_complete unfinishedToo completeToo]
    exact ⟨rfl, opened.markFinished id _⟩
  · have pendingToo := complete
    rw [sameDue, sameEntry] at pendingToo
    have inside := below _ _ opened
    rw [executedNode_control_round unfinished complete,
      executedNode_control_round unfinishedToo pendingToo,
      stepNode_control_round unfinished complete,
      stepNode_control_round unfinishedToo pendingToo]
    refine ⟨inside.1, ?_⟩
    dsimp only
    rw [allFinished_congr inside.2 children, sameDue]
    split
    · exact closeRound_congr inside.2 id _ _ children
    · exact inside.2

theorem stepNode_congr (node : Block) (below : Settled actor now later node.children)
    (alike : Progress.Alike actor first.progress second.progress) :
    executedNode actor now node first = executedNode actor later node second ∧
      Progress.Alike actor (stepNode actor now node first).progress
        (stepNode actor later node second).progress := by
  rcases node with ⟨id, kind, owner, parent, children⟩
  by_cases finished : first.progress.isFinished actor id = true
  · have finishedToo := alike.isFinished id ▸ finished
    rw [executedNode_of_finished finished, executedNode_of_finished finishedToo,
      stepNode_of_finished finished, stepNode_of_finished finishedToo]
    exact ⟨rfl, alike⟩
  · have unfinishedToo : ¬ second.progress.isFinished actor id = true :=
      alike.isFinished id ▸ finished
    cases kind with
    | motion command =>
      rw [executedNode_motion finished, executedNode_motion unfinishedToo,
        stepNode_motion finished, stepNode_motion unfinishedToo]
      exact ⟨rfl, alike.markFinished id _⟩
    | look command =>
      rw [executedNode_look finished, executedNode_look unfinishedToo,
        stepNode_look finished, stepNode_look unfinishedToo]
      refine ⟨rfl, Progress.Alike.markFinished ?_ id _⟩
      rw [progress_look, progress_look]
      exact alike
    | control command => exact stepNode_control_congr below alike finished

/-- What a walk executes and leaves of the entries of its actor depends only on
the forest and on the entries of the actor before. -/
theorem settled (actor : ActorId) (now later : Instant) (forest : Forest) :
    Settled actor now later forest := by
  induction forest using Forest.induction with
  | nil => exact fun _ _ alike => ⟨rfl, alike⟩
  | cons id kind owner parent children rest below after =>
    intro first second alike
    have own := stepNode_congr ⟨id, kind, owner, parent, children⟩ below alike
    have further := after _ _ own.2
    rw [executedForest_cons, executedForest_cons, own.1, further.1]
    exact ⟨rfl, further.2⟩

end Walk

end SpriteStage
