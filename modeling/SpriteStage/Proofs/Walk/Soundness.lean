import SpriteStage.Proofs.Progress.Soundness
import SpriteStage.Proofs.Walk.Frame

namespace SpriteStage

/-!
# A walk keeps the entries fitting

Where the entries fit the programs, a walk of a program keeps them so.  The
fact that carries this through bodies which start over is that a block is not
among the blocks it repeats: while a walk is inside its body, its own entry
stays as it was when the walk entered.

The guarded walk is the walk with its two latent faults made explicit.  It
gives up where it meets a block that is not done although all of its rounds
are, and where counting a round would exceed the most rounds.  With fitting
entries it never gives up.
-/

namespace Walk

variable {store : Programs} {actor : ActorId} {now : Instant} {walk : Walk} {id : BlockId}
  {kind : Kind} {command : Control} {children : Forest}

/-- A block that is not done has rounds to go. -/
theorem not_due_le_completed (sound : store.Sound) (fits : walk.progress.Fits store)
    (listed : (id, .control command) ∈ Forest.kinds (store.forest actor))
    (unfinished : ¬ walk.progress.isFinished actor id = true) :
    ¬ due actor id (.control command) walk ≤
      (walk.progress.entryOf actor id (.control command)).completed := by
  have entryFits := fits.entryOf sound listed
  rw [Progress.isFinished_eq_entryOf _ actor id (.control command), Bool.not_eq_true] at unfinished
  rcases entryFits.underway_of_unfinished rfl unfinished with ⟨target, targetIs, _, pending⟩
  rw [due, targetIs, Option.getD_some]
  exact Nat.not_le.2 pending

/-- Counting a round of a block that is not done stays within the most rounds. -/
theorem completed_lt_maxRounds (sound : store.Sound) (fits : walk.progress.Fits store)
    (listed : (id, .control command) ∈ Forest.kinds (store.forest actor))
    (unfinished : ¬ walk.progress.isFinished actor id = true) :
    (walk.progress.entryOf actor id (.control command)).completed < Control.maxRounds := by
  have entryFits := fits.entryOf sound listed
  rw [Progress.isFinished_eq_entryOf _ actor id (.control command), Bool.not_eq_true] at unfinished
  rcases entryFits.underway_of_unfinished rfl unfinished with ⟨target, _, bounded, pending⟩
  exact Nat.lt_of_lt_of_le pending bounded

theorem finish_fits (sound : store.Sound) (fits : walk.progress.Fits store)
    (listed : (id, kind) ∈ Forest.kinds (store.forest actor)) (plain : kind.holdsBlocks = false) :
    (walk.finish actor id kind).progress.Fits store :=
  fits.put listed ((fits.entryOf sound listed).finish_command plain)

/-- Inside the body of a block the entry of the block is as it was outside. -/
theorem entryOf_inside (apart : id ∉ Forest.ids children) :
    (stepForest actor now children (walk.opened actor id kind)).progress.entryOf actor id kind =
      walk.progress.entryOf actor id kind :=
  Progress.entryOf_of_some (get?_inside apart walk)

theorem closeRound_fits (fits : walk.progress.Fits store)
    (listed : (id, .control command) ∈ Forest.kinds (store.forest actor))
    (below : Forest.kinds children ⊆ Forest.kinds (store.forest actor)) {entry : Entry}
    (entryIs : walk.progress.entryOf actor id (.control command) = entry)
    (entryFits : entry.Fits (.control command)) (unfinished : entry.finished = false) :
    (walk.closeRound actor id (.control command) (entry.target.getD 1) children).progress.Fits
      store := by
  rcases entryFits.underway_of_unfinished rfl unfinished with ⟨target, targetIs, bounded, pending⟩
  unfold closeRound Progress.completeRound
  rw [entryIs, targetIs, Option.getD_some]
  dsimp only
  split
  · rename_i last
    have all : entry.completed + 1 = target := by omega
    rw [Progress.markFinished, Progress.entryOf_of_some (Progress.get?_put_self ..)]
    -- between the two changes the entry has all rounds complete but is not done;
    -- only the later one fits
    apply fits.put_put _ listed
    rw [all, targetIs]
    exact .done target rfl (by omega) bounded
  · rename_i more
    apply Progress.Fits.seed children below
    apply fits.put listed
    rw [unfinished, targetIs]
    exact .underway (entry.completed + 1) target rfl bounded (by omega)

theorem stepForest_fits (sound : store.Sound) (forest : Forest)
    (listed : Forest.kinds forest ⊆ Forest.kinds (store.forest actor))
    (distinct : (Forest.ids forest).Nodup) :
    forall walk : Walk, walk.progress.Fits store ->
      (stepForest actor now forest walk).progress.Fits store := by
  induction forest using Forest.induction with
  | nil => exact fun _ fits => fits
  | cons id kind owner parent children rest below after =>
    intro walk fits
    have apart := Forest.nodup_ids_cons distinct
    rw [Forest.kinds_cons, List.cons_subset, List.append_subset] at listed
    rcases listed with ⟨rootListed, childrenListed, restListed⟩
    rw [stepForest_cons]
    apply after restListed apart.2.2.2.1
    by_cases finished : walk.progress.isFinished actor id = true
    · rw [stepNode_of_finished finished]
      exact fits
    · cases kind with
      | motion command =>
        rw [stepNode_motion finished]
        exact finish_fits sound fits rootListed rfl
      | look command =>
        rw [stepNode_look finished]
        have heard : (walk.look actor now command).progress.Fits store := by
          rw [progress_look]
          exact fits
        exact finish_fits sound heard rootListed rfl
      | control command =>
        have entered : (walk.opened actor id (.control command)).progress.Fits store :=
          fits.ensure rootListed
        have inside := below childrenListed apart.2.2.1 _ entered
        have pending := not_due_le_completed sound fits rootListed finished
        rw [stepNode_control_round finished pending]
        dsimp only
        split
        · rw [Progress.isFinished_eq_entryOf _ actor id (.control command),
            Bool.not_eq_true] at finished
          exact closeRound_fits inside rootListed childrenListed (entryOf_inside apart.1)
            (fits.entryOf sound rootListed) finished
        · exact inside

/-! ## The guarded walk -/

mutual

/-- Walk through one block, unless a count is out of its range. -/
def guardedNode (actor : ActorId) (now : Instant) : Block -> Walk -> Option Walk
  | ⟨id, kind, _, _, children⟩, walk =>
    if walk.progress.isFinished actor id then some walk
    else
      match kind with
      | .motion command => some ((walk.move actor command).finish actor id kind)
      | .look command => some ((walk.look actor now command).finish actor id kind)
      | .control _ =>
        if due actor id kind walk ≤ (walk.progress.entryOf actor id kind).completed then none
        else
          match guardedForest actor now children (walk.opened actor id kind) with
          | none => none
          | some inside =>
            if inside.allFinished actor children then
              if Control.maxRounds ≤ (inside.progress.entryOf actor id kind).completed then none
              else some (inside.closeRound actor id kind (due actor id kind walk) children)
            else some inside

def guardedForest (actor : ActorId) (now : Instant) : Forest -> Walk -> Option Walk
  | [], walk => some walk
  | node :: rest, walk =>
    match guardedNode actor now node walk with
    | none => none
    | some next => guardedForest actor now rest next

end

theorem guardedNode_eq_some (sound : store.Sound) {owner : ActorId} {parent : Option BlockId}
    (fits : walk.progress.Fits store) (listed : (id, kind) ∈ Forest.kinds (store.forest actor))
    (apart : id ∉ Forest.ids children)
    (below : guardedForest actor now children (walk.opened actor id kind) =
      some (stepForest actor now children (walk.opened actor id kind))) :
    guardedNode actor now ⟨id, kind, owner, parent, children⟩ walk =
      some (stepNode actor now ⟨id, kind, owner, parent, children⟩ walk) := by
  by_cases finished : walk.progress.isFinished actor id = true
  · rw [stepNode_of_finished finished, guardedNode.eq_def]
    exact if_pos finished
  · cases kind with
    | motion command => rw [stepNode_motion finished, guardedNode, if_neg finished]
    | look command => rw [stepNode_look finished, guardedNode, if_neg finished]
    | control command =>
      have pending := not_due_le_completed sound fits listed finished
      have room := completed_lt_maxRounds sound fits listed finished
      rw [stepNode_control_round finished pending, guardedNode, if_neg finished, if_neg pending,
        below]
      dsimp only
      rw [entryOf_inside apart, if_neg (Nat.not_le.2 room)]
      exact (apply_ite some _ _ _).symm

/-- Where the entries fit the programs, the guarded walk never gives up. -/
theorem guardedForest_eq_some (sound : store.Sound) (forest : Forest)
    (listed : Forest.kinds forest ⊆ Forest.kinds (store.forest actor))
    (distinct : (Forest.ids forest).Nodup) :
    forall walk : Walk, walk.progress.Fits store ->
      guardedForest actor now forest walk = some (stepForest actor now forest walk) := by
  induction forest using Forest.induction with
  | nil => exact fun _ _ => rfl
  | cons id kind owner parent children rest below after =>
    intro walk fits
    let node : Block := ⟨id, kind, owner, parent, children⟩
    have apart := Forest.nodup_ids_cons distinct
    rw [Forest.kinds_cons, List.cons_subset, List.append_subset] at listed
    rcases listed with ⟨rootListed, childrenListed, restListed⟩
    have entered : (walk.opened actor id kind).progress.Fits store := fits.ensure rootListed
    have root : guardedNode actor now node walk = some (stepNode actor now node walk) :=
      guardedNode_eq_some sound fits rootListed apart.1
        (below childrenListed apart.2.2.1 _ entered)
    have rootFits : (stepForest actor now [node] walk).progress.Fits store := by
      refine stepForest_fits sound [node] ?_ ?_ walk fits
      · rw [Forest.kinds_cons, Forest.kinds_nil, List.append_nil, List.cons_subset]
        exact ⟨rootListed, childrenListed⟩
      · rw [Forest.ids_cons, Forest.ids_nil, List.append_nil]
        exact List.nodup_cons.2 ⟨apart.1, apart.2.2.1⟩
    rw [guardedForest, root]
    exact after restListed apart.2.2.2.1 _ rootFits

end Walk

end SpriteStage
