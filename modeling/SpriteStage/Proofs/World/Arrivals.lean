import SpriteStage.Proofs.World.Tracking

namespace SpriteStage

/-!
# Blocks that arrive at an actor

A block arrives at an actor when an operation leaves it in the program of the
actor, where it was not before.  An edit brings no entries, so what arrives by
an edit has none: entries that fit the programs before it are those of other
blocks.  What arrives by a collision has a fresh entry.  In either case the
block starts anew, and in neither is it done.
-/

namespace World

/-- No block that an actor got between two worlds is done. -/
def ArriveUnfinished (before after : World) : Prop :=
  forall run, after.run = some run -> forall actor id,
    id ∉ Forest.ids (before.programs.forest actor) ->
      id ∈ Forest.ids (after.programs.forest actor) ->
        run.progress.isFinished actor id = false

/-- Every block that an actor got between two worlds starts anew there: it has
no entry with the actor or a fresh one. -/
def ArriveAnew (before after : World) : Prop :=
  forall run, after.run = some run -> forall actor id kind,
    id ∉ Forest.ids (before.programs.forest actor) ->
      (id, kind) ∈ Forest.kinds (after.programs.forest actor) ->
        run.progress.entryOf actor id kind = Entry.fresh kind

/-- Every entry of the run after an edit was there before it. -/
def NoNewEntries (before after : World) : Prop :=
  forall run, after.run = some run -> Exists fun earlier => before.run = some earlier ∧
    forall actor id, run.progress.get? actor id = none ∨
      run.progress.get? actor id = earlier.progress.get? actor id

variable {before middle after : World} {now : Instant}

theorem noNewEntries_of_same_run (same : after.run = before.run) : NoNewEntries before after := by
  intro run active
  exact ⟨run, same ▸ active, fun _ _ => Or.inr rfl⟩

theorem noNewEntries_of_fewer {change : Run -> Run}
    (same : after.run = before.run.map change)
    (fewer : forall run actor id, (change run).progress.get? actor id = none ∨
      (change run).progress.get? actor id = run.progress.get? actor id) :
    NoNewEntries before after := by
  intro run active
  rw [same] at active
  rcases Option.map_eq_some_iff.1 active with ⟨earlier, earlierActive, rfl⟩
  exact ⟨earlier, earlierActive, fewer earlier⟩

theorem noNewEntries_forget (actor : ActorId)
    (same : after.run = before.run.map fun run => run.forget actor) :
    NoNewEntries before after :=
  noNewEntries_of_fewer same fun run => run.progress.fewer_forget actor

theorem noNewEntries_forgetTree (owner : ActorId) (node : Block)
    (same : after.run = before.run.map fun run => run.forgetTree owner node) :
    NoNewEntries before after :=
  noNewEntries_of_fewer same fun run => run.progress.fewer_forgetBlocks owner node.ids

namespace ArriveAnew

theorem of_same_programs (same : after.programs = before.programs) : ArriveAnew before after := by
  intro run active actor id kind absent listed
  rw [same] at listed
  exact absurd (Forest.mem_ids_of_mem_kinds listed) absent

theorem of_noNewEntries (coherent : before.Coherent) (none : NoNewEntries before after) :
    ArriveAnew before after := by
  intro run active actor id kind absent _
  rcases none run active with ⟨earlier, earlierActive, entries⟩
  have missing : run.progress.get? actor id = Option.none := by
    rcases entries actor id with gone | same
    · exact gone
    · rw [same]
      exact (coherent.tracked earlier earlierActive).get?_eq_none absent
  exact Progress.entryOf_of_none missing

theorem collide (arrived : ArriveAnew before middle) (sound : middle.Sound)
    (pair : ActorPair) : ArriveAnew before (middle.collide now pair).2 := by
  unfold World.collide
  split
  · rename_i earlier first second earlierActive _ _
    intro run active actor id kind absent listed
    cases active
    dsimp only at listed ⊢
    have exchanged := sound.programs.exchange pair.first pair.second
    unfold restart
    -- the second program is seeded last, so its entries are looked at first
    by_cases isSecond : actor = pair.second
    · rw [isSecond] at listed ⊢
      exact Progress.entryOf_of_some
        (Progress.get?_seed_of_mem _ _ (exchanged.distinct _) listed)
    · rw [Progress.entryOf_congr (Progress.get?_seed_of_notMem _ _ (Or.inl isSecond))]
      by_cases isFirst : actor = pair.first
      · rw [isFirst] at listed ⊢
        exact Progress.entryOf_of_some
          (Progress.get?_seed_of_mem _ _ (exchanged.distinct _) listed)
      · rw [Progress.entryOf_congr (Progress.get?_seed_of_notMem _ _ (Or.inl isFirst))]
        have kept : ((earlier.progress.forget pair.first).forget pair.second).get? actor id =
            earlier.progress.get? actor id := by
          rw [Progress.get?_forget, if_neg isSecond, Progress.get?_forget, if_neg isFirst]
        rw [sound.programs.forest_exchange_eq_relabel, Forest.kinds_relabel, Programs.partner,
          if_neg isSecond, if_neg isFirst] at listed
        rw [Progress.entryOf_congr kept]
        exact arrived earlier earlierActive actor id kind absent listed
  · exact arrived

theorem sweep (coherent : middle.Coherent) (arrived : ArriveAnew before middle) :
    ArriveAnew before (middle.sweep now).2 := by
  unfold World.sweep
  split
  · exact arrived
  · rename_i earlier earlierActive
    refine (collect_of_preserved (fun world => world.Sound ∧ ArriveAnew before world)
      ?_ _ _ ⟨?_, ?_⟩).2
    · intro pair world both
      exact ⟨both.1.collide pair, both.2.collide both.1 pair⟩
    · exact coherent.toSound.congr rfl rfl
    · intro run active
      cases active
      exact arrived earlier earlierActive

/-- Whatever is done to a coherent world, the blocks that arrive at an actor
start anew there. -/
theorem apply {world : World} (coherent : world.Coherent) (operation : Operation) :
    ArriveAnew world (operation.apply world) := by
  cases operation with
  | spawn fresh =>
    apply of_same_programs
    rw [Operation.apply]
    split
    · rename_i next spawned
      rcases spawn_eq_ok spawned with ⟨cast, _, rfl⟩
      rfl
    · rfl
  | rename actor name =>
    apply of_same_programs
    rw [Operation.apply, rename_world]
  | place actor x y heading =>
    apply of_same_programs
    rw [Operation.apply, place_world]
  | dismiss actor =>
    apply of_noNewEntries coherent
    rcases world.dismiss_cases actor with same | ⟨removed, cast, _, same⟩
    · exact noNewEntries_of_same_run (by rw [Operation.apply, same])
    · exact noNewEntries_forget actor (by rw [Operation.apply, same])
  | insert node parent actor =>
    apply of_noNewEntries coherent
    rcases world.insert_cases node parent actor with same | ⟨programs, _, _, same⟩
    · exact noNewEntries_of_same_run (by rw [Operation.apply, same])
    · exact noNewEntries_of_same_run (by rw [Operation.apply, same])
  | remove block =>
    apply of_noNewEntries coherent
    rcases world.remove_cases coherent.programs block with same | ⟨owner, node, _, same⟩
    · exact noNewEntries_of_same_run (by rw [Operation.apply, same])
    · exact noNewEntries_forgetTree owner node (by rw [Operation.apply, same])
  | move block actor parent =>
    apply of_noNewEntries coherent
    rcases world.move_cases coherent.programs block actor parent with
      same | ⟨owner, node, _, _, _, same⟩
    · exact noNewEntries_of_same_run (by rw [Operation.apply, same])
    · by_cases within : owner = actor
      · rw [if_pos within] at same
        exact noNewEntries_of_same_run (by rw [Operation.apply, same])
      · rw [if_neg within] at same
        exact noNewEntries_forgetTree owner node (by rw [Operation.apply, same])
  | adjust block name value =>
    apply of_noNewEntries coherent
    rcases world.adjust_cases block name value with same | ⟨programs, _, same⟩
    · exact noNewEntries_of_same_run (by rw [Operation.apply, same])
    · exact noNewEntries_of_same_run (by rw [Operation.apply, same])
  | start =>
    apply of_same_programs
    rw [Operation.apply, World.start]
    split <;> rfl
  | finish => exact of_same_programs rfl
  | restore => exact of_same_programs rfl
  | tick actor generation now =>
    rw [Operation.apply]
    rcases world.tick_cases actor generation now with same | same | ⟨_, same⟩
    · rw [same]
      exact of_same_programs rfl
    · rw [same]
      exact of_same_programs rfl
    · rw [same]
      exact sweep coherent.step (of_same_programs world.step_programs)
  | tickTogether now =>
    rw [Operation.apply, World.tickTogether]
    split
    · exact of_same_programs rfl
    · exact sweep (coherent.collect_stepPresent _)
        (of_same_programs (world.collect_stepPresent_programs _))
  | sweep now => exact sweep coherent (of_same_programs rfl)

/-- A block that starts anew is not done. -/
theorem unfinished (arrived : ArriveAnew before after) : ArriveUnfinished before after := by
  intro run active actor id absent member
  rcases Forest.exists_kind_of_mem_ids member with ⟨kind, listed⟩
  rw [Progress.isFinished_eq_entryOf _ _ _ kind, arrived run active actor id kind absent listed]
  rfl

end ArriveAnew

/-- In every world that an allowed history reaches, the entries of a run fit
the programs.  The guarded walk gets through every program there, also in the
middle of a tick, when some actors have walked.  The blocks that the next
operation brings to an actor are not done there.

The entries are not claimed to be complete: a block that came during the run
has none until a tick gets to it.  What is claimed is that no entry outlives its
block, and that each of them has the count that the kind of its block calls for. -/
theorem run_tracks_programs {world : World} (created : Created world) (history : List Operation)
    (allowed : world.Allows history) :
    let reached := world.after history
    (forall run, reached.run = some run -> run.progress.Fits reached.programs) ∧
      (forall actors actor now run,
        let middle := (collect (stepPresent now) actors reached).2
        middle.run = some run ->
          Walk.guardedForest actor now (middle.programs.forest actor)
              ⟨middle.cast, run.progress, []⟩ =
            some (tickProgram actor now (middle.programs.forest actor) middle.cast
              run.progress)) ∧
      forall operation, ArriveUnfinished reached (Operation.apply reached operation) := by
  intro reached
  have coherent : reached.Coherent := created.coherent.after_history history allowed
  refine ⟨coherent.tracked, ?_, ?_⟩
  · intro actors actor now run middle active
    exact (coherent.collect_stepPresent actors).guarded_walk active
  · intro operation
    exact (ArriveAnew.apply coherent operation).unfinished

section Sample

/-- A run in which a repeated word goes to another actor and comes back. -/
def sampleRun : List Operation :=
  [.insert sampleTree none ⟨Uuid.ofNat 1⟩, .start, .move ⟨Uuid.ofNat 2⟩ ⟨Uuid.ofNat 2⟩ none,
    .move ⟨Uuid.ofNat 2⟩ ⟨Uuid.ofNat 1⟩ (some ⟨Uuid.ofNat 1⟩)]

/-- The entry of the word is gone after the journey; that of the block around
it is there, and fits. -/
theorem run_tracks_sampleRun :
    let world := standard ⟨Uuid.ofNat 1⟩ ⟨Uuid.ofNat 2⟩ Settings.standard 0
    let reached := world.after sampleRun
    Created world ∧ world.Allows sampleRun ∧
      Exists fun run => reached.run = some run ∧ run.progress.Fits reached.programs ∧
        run.progress.get? ⟨Uuid.ofNat 1⟩ ⟨Uuid.ofNat 1⟩ = some ⟨false, 0, some 3⟩ ∧
        run.progress.get? ⟨Uuid.ofNat 1⟩ ⟨Uuid.ofNat 2⟩ = none := by
  intro world reached
  have created : Created world := .standard _ _ _ _ (by decide)
  have allowed : world.Allows sampleRun :=
    ⟨sampleTree_allowed, trivial, trivial, trivial, trivial⟩
  have fits := (run_tracks_programs created sampleRun allowed).1
  rcases Option.isSome_iff_exists.1 (by decide : reached.run.isSome = true) with ⟨run, active⟩
  have outer : reached.run.map (fun run => run.progress.get? ⟨Uuid.ofNat 1⟩ ⟨Uuid.ofNat 1⟩) =
      some (some ⟨false, 0, some 3⟩) := by decide
  have inner : reached.run.map (fun run => run.progress.get? ⟨Uuid.ofNat 1⟩ ⟨Uuid.ofNat 2⟩) =
      some none := by decide
  rw [active] at outer inner
  exact ⟨created, allowed, run, active, fits run active, Option.some.inj outer,
    Option.some.inj inner⟩

end Sample

end World

end SpriteStage
