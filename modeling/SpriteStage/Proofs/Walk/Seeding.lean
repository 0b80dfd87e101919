import SpriteStage.Proofs.World.Order

namespace SpriteStage

/-!
# Entries that are missing

A run gives every block of its beginning an entry, and none to a block that
comes later.  It makes no difference.  Two tables are equally far in a program
when the entries of each of its blocks agree, where a missing entry counts as
a fresh one.  A walk then executes the same commands with both and leaves them
equally far, from whatever state the two begin in.
-/

namespace Progress

/-- Whether the blocks of a forest have come equally far in two tables.  A
block without an entry counts as one with a fresh entry. -/
def EquallyFar (actor : ActorId) (forest : Forest) (first second : Progress) : Prop :=
  forall node, node ∈ Forest.nodes forest ->
    first.entryOf actor node.id node.kind = second.entryOf actor node.id node.kind

instance (actor : ActorId) (forest : Forest) (first second : Progress) :
    Decidable (EquallyFar actor forest first second) :=
  inferInstanceAs (Decidable (forall node, node ∈ Forest.nodes forest -> _))

namespace EquallyFar

variable {actor : ActorId} {forest rest children : Forest} {first second one other : Progress}
  {id : BlockId} {kind : Kind} {owner : ActorId} {parent : Option BlockId}

theorem cons_iff :
    EquallyFar actor (⟨id, kind, owner, parent, children⟩ :: rest) first second <->
      first.entryOf actor id kind = second.entryOf actor id kind ∧
        EquallyFar actor children first second ∧ EquallyFar actor rest first second := by
  simp only [EquallyFar, Forest.nodes_cons, List.forall_mem_cons, List.forall_mem_append]

theorem singleton_iff :
    EquallyFar actor [⟨id, kind, owner, parent, children⟩] first second <->
      first.entryOf actor id kind = second.entryOf actor id kind ∧
        EquallyFar actor children first second := by
  rw [cons_iff, and_congr_right_iff, and_iff_left_iff_imp]
  exact fun _ _ node member => absurd member List.not_mem_nil

/-- What does not touch the entries of a forest keeps two tables equally far in
it. -/
theorem congr (far : EquallyFar actor forest first second)
    (left : forall block, block ∈ Forest.ids forest ->
      one.get? actor block = first.get? actor block)
    (right : forall block, block ∈ Forest.ids forest ->
      other.get? actor block = second.get? actor block) :
    EquallyFar actor forest one other := by
  intro node member
  have listed : node.id ∈ Forest.ids forest := by
    rw [Forest.ids_eq_map]
    exact List.mem_map_of_mem member
  rw [entryOf_congr (left _ listed), entryOf_congr (right _ listed)]
  exact far node member

theorem isFinished (far : EquallyFar actor forest first second) {node : Block}
    (member : node ∈ Forest.nodes forest) :
    first.isFinished actor node.id = second.isFinished actor node.id := by
  rw [isFinished_eq_entryOf first actor node.id node.kind,
    isFinished_eq_entryOf second actor node.id node.kind, far node member]

/-- A forest that starts over is equally far in any two tables. -/
theorem seed (distinct : (Forest.ids forest).Nodup) (first second : Progress) :
    EquallyFar actor forest (first.seed actor forest) (second.seed actor forest) := by
  intro node member
  have listed : (node.id, node.kind) ∈ Forest.kinds forest := List.mem_map_of_mem member
  rw [entryOf_of_some (get?_seed_of_mem forest first distinct listed),
    entryOf_of_some (get?_seed_of_mem forest second distinct listed)]

/-- A table without entries is equally far as one with nothing but fresh ones. -/
theorem empty_of_fresh (fresh : forall node, node ∈ Forest.nodes forest ->
      second.get? actor node.id = some (Entry.fresh node.kind)) :
    EquallyFar actor forest empty second := by
  intro node member
  rw [entryOf_of_none (get?_empty actor node.id), entryOf_of_some (fresh node member)]

end EquallyFar

/-- At the start of a run every block of every program has a fresh entry. -/
theorem get?_start {store : Programs} {actor : ActorId} {node : Block}
    (distinct : (Forest.ids (store.forest actor)).Nodup)
    (member : node ∈ Forest.nodes (store.forest actor)) :
    (start store.programs).get? actor node.id = some (Entry.fresh node.kind) := by
  have listed : (node.id, node.kind) ∈ Forest.kinds (store.forest actor) :=
    List.mem_map_of_mem member
  rw [get?_start_rows store.nodup_keys_programs, store.getD_lookup_programs]
  exact get?_seed_of_mem _ _ distinct listed

end Progress

namespace Walk

variable {actor : ActorId} {now later : Instant} {first second walk : Walk} {id : BlockId}
  {kind : Kind} {owner : ActorId} {parent : Option BlockId} {children : Forest}

open Progress (EquallyFar)

theorem entryOf_finish (walk : Walk) (actor : ActorId) (id : BlockId) (kind : Kind) :
    (walk.finish actor id kind).progress.entryOf actor id kind =
      { walk.progress.entryOf actor id kind with finished := true } := by
  rw [finish, Progress.markFinished]
  exact Progress.entryOf_of_some (Progress.get?_put_self ..)

theorem allFinished_of_equallyFar {forest : Forest}
    (far : EquallyFar actor forest first.progress second.progress) :
    first.allFinished actor forest = second.allFinished actor forest := by
  rw [Bool.eq_iff_iff, allFinished, allFinished, List.all_eq_true, List.all_eq_true]
  refine forall₂_congr fun node member => ?_
  rw [far.isFinished (Forest.mem_nodes_of_mem member)]

/-- Finishing a block keeps two walks equally far. -/
theorem finish_equallyFar (apart : id ∉ Forest.ids children)
    (far : EquallyFar actor [⟨id, kind, owner, parent, children⟩] first.progress second.progress) :
    EquallyFar actor [⟨id, kind, owner, parent, children⟩]
      (first.finish actor id kind).progress (second.finish actor id kind).progress := by
  rw [EquallyFar.singleton_iff] at far ⊢
  have kept : forall (walk : Walk) (block : BlockId), block ∈ Forest.ids children ->
      (walk.finish actor id kind).progress.get? actor block = walk.progress.get? actor block :=
    fun _ _ member => get?_finish_of_ne (Or.inr fun same => apart (same ▸ member))
  refine ⟨?_, far.2.congr (kept first) (kept second)⟩
  rw [entryOf_finish, entryOf_finish, far.1]

theorem opened_equallyFar (apart : id ∉ Forest.ids children)
    (far : EquallyFar actor [⟨id, kind, owner, parent, children⟩] first.progress second.progress) :
    EquallyFar actor [⟨id, kind, owner, parent, children⟩]
      (first.opened actor id kind).progress (second.opened actor id kind).progress := by
  rw [EquallyFar.singleton_iff] at far ⊢
  have kept : forall (walk : Walk) (block : BlockId), block ∈ Forest.ids children ->
      (walk.opened actor id kind).progress.get? actor block = walk.progress.get? actor block :=
    fun _ _ member =>
      Progress.get?_ensure_of_ne _ _ (Or.inr fun same => apart (same ▸ member))
  refine ⟨?_, far.2.congr (kept first) (kept second)⟩
  rw [opened, opened, Progress.entryOf_of_some (Progress.get?_ensure_self ..),
    Progress.entryOf_of_some (Progress.get?_ensure_self ..), far.1]

/-- Closing a round keeps two walks equally far: either the block is done in
both, or its body starts over in both. -/
theorem closeRound_equallyFar (apart : id ∉ Forest.ids children)
    (distinct : (Forest.ids children).Nodup) (target : Nat)
    (far : EquallyFar actor [⟨id, kind, owner, parent, children⟩] first.progress second.progress) :
    EquallyFar actor [⟨id, kind, owner, parent, children⟩]
      (first.closeRound actor id kind target children).progress
      (second.closeRound actor id kind target children).progress := by
  have own := (EquallyFar.singleton_iff.1 far).1
  have counted : EquallyFar actor [⟨id, kind, owner, parent, children⟩]
      (first.progress.completeRound actor id kind).2
      (second.progress.completeRound actor id kind).2 := by
    rw [EquallyFar.singleton_iff] at far ⊢
    have kept : forall (progress : Progress) (block : BlockId), block ∈ Forest.ids children ->
        (progress.completeRound actor id kind).2.get? actor block = progress.get? actor block :=
      fun progress _ member =>
        Progress.get?_put_of_ne progress _ (Or.inr fun same => apart (same ▸ member))
    refine ⟨?_, far.2.congr (kept first.progress) (kept second.progress)⟩
    unfold Progress.completeRound
    rw [Progress.entryOf_of_some (Progress.get?_put_self ..),
      Progress.entryOf_of_some (Progress.get?_put_self ..), own]
  have sameCount : (first.progress.completeRound actor id kind).1 =
      (second.progress.completeRound actor id kind).1 := by
    unfold Progress.completeRound
    rw [own]
  unfold closeRound
  dsimp only
  rw [sameCount]
  split
  · let one : Walk := { first with progress := (first.progress.completeRound actor id kind).2 }
    let other : Walk := { second with progress := (second.progress.completeRound actor id kind).2 }
    have finished : EquallyFar actor [⟨id, kind, owner, parent, children⟩]
        (one.finish actor id kind).progress (other.finish actor id kind).progress :=
      finish_equallyFar apart counted
    exact finished
  · rw [EquallyFar.singleton_iff]
    refine ⟨?_, EquallyFar.seed distinct _ _⟩
    rw [Progress.entryOf_congr (Progress.get?_seed_of_notMem children _ (Or.inr apart)),
      Progress.entryOf_congr (Progress.get?_seed_of_notMem children _ (Or.inr apart))]
    exact (EquallyFar.singleton_iff.1 counted).1

/-- Whether walks through a forest that begin equally far execute the same
commands and end equally far. -/
def KeepsPace (actor : ActorId) (now later : Instant) (forest : Forest) : Prop :=
  forall first second : Walk, EquallyFar actor forest first.progress second.progress ->
    executedForest actor now forest first = executedForest actor later forest second ∧
      EquallyFar actor forest (stepForest actor now forest first).progress
        (stepForest actor later forest second).progress

theorem stepNode_control_equallyFar {command : Control} (apart : id ∉ Forest.ids children)
    (distinct : (Forest.ids children).Nodup) (below : KeepsPace actor now later children)
    (far : EquallyFar actor [⟨id, .control command, owner, parent, children⟩] first.progress
      second.progress)
    (unfinished : ¬ first.progress.isFinished actor id = true) :
    let node : Block := ⟨id, .control command, owner, parent, children⟩
    executedNode actor now node first = executedNode actor later node second ∧
      EquallyFar actor [node] (stepNode actor now node first).progress
        (stepNode actor later node second).progress := by
  intro node
  have sameEntry := (EquallyFar.singleton_iff.1 far).1
  have unfinishedToo : ¬ second.progress.isFinished actor id = true := by
    rwa [Progress.isFinished_eq_entryOf _ actor id (.control command), sameEntry,
      ← Progress.isFinished_eq_entryOf] at unfinished
  have sameDue : due actor id (.control command) first =
      due actor id (.control command) second := by
    rw [due, due, sameEntry]
  have opened := opened_equallyFar apart far
  by_cases complete : due actor id (.control command) first ≤
      (first.progress.entryOf actor id (.control command)).completed
  · have completeToo := complete
    rw [sameDue, sameEntry] at completeToo
    rw [executedNode_control_complete unfinished complete,
      executedNode_control_complete unfinishedToo completeToo,
      stepNode_control_complete unfinished complete,
      stepNode_control_complete unfinishedToo completeToo]
    exact ⟨rfl, finish_equallyFar apart opened⟩
  · have pendingToo := complete
    rw [sameDue, sameEntry] at pendingToo
    have inside := below _ _ (EquallyFar.singleton_iff.1 opened).2
    have insideFar : EquallyFar actor [node]
        (stepForest actor now children (first.opened actor id (.control command))).progress
        (stepForest actor later children (second.opened actor id (.control command))).progress := by
      rw [EquallyFar.singleton_iff]
      refine ⟨?_, inside.2⟩
      rw [entryOf_inside apart, entryOf_inside apart, sameEntry]
    have sameFinished :
        (stepForest actor now children (first.opened actor id (.control command))).allFinished
            actor children =
          (stepForest actor later children (second.opened actor id (.control command))).allFinished
            actor children := allFinished_of_equallyFar inside.2
    rw [executedNode_control_round unfinished complete,
      executedNode_control_round unfinishedToo pendingToo,
      stepNode_control_round unfinished complete,
      stepNode_control_round unfinishedToo pendingToo]
    refine ⟨inside.1, ?_⟩
    dsimp only
    rw [sameFinished, sameDue]
    split
    · exact closeRound_equallyFar apart distinct _ insideFar
    · exact insideFar

theorem stepNode_equallyFar (apart : id ∉ Forest.ids children)
    (distinct : (Forest.ids children).Nodup) (below : KeepsPace actor now later children)
    (far : EquallyFar actor [⟨id, kind, owner, parent, children⟩] first.progress second.progress) :
    let node : Block := ⟨id, kind, owner, parent, children⟩
    executedNode actor now node first = executedNode actor later node second ∧
      EquallyFar actor [node] (stepNode actor now node first).progress
        (stepNode actor later node second).progress := by
  intro node
  have own : node ∈ Forest.nodes [node] := List.mem_cons_self
  have same : first.progress.isFinished actor id = second.progress.isFinished actor id :=
    far.isFinished own
  by_cases finished : first.progress.isFinished actor id = true
  · have finishedToo := same ▸ finished
    rw [executedNode_of_finished finished, executedNode_of_finished finishedToo,
      stepNode_of_finished finished, stepNode_of_finished finishedToo]
    exact ⟨rfl, far⟩
  · have unfinishedToo := same ▸ finished
    cases kind with
    | motion command =>
      rw [executedNode_motion finished, executedNode_motion unfinishedToo,
        stepNode_motion finished, stepNode_motion unfinishedToo]
      exact ⟨rfl, finish_equallyFar apart far⟩
    | look command =>
      rw [executedNode_look finished, executedNode_look unfinishedToo,
        stepNode_look finished, stepNode_look unfinishedToo]
      refine ⟨rfl, finish_equallyFar apart ?_⟩
      rw [progress_look, progress_look]
      exact far
    | control command => exact stepNode_control_equallyFar apart distinct below far finished

/-- Walks that begin equally far execute the same commands and end equally far. -/
theorem keepsPace (actor : ActorId) (now later : Instant) {forest : Forest}
    (distinct : (Forest.ids forest).Nodup) : KeepsPace actor now later forest := by
  induction forest using Forest.induction with
  | nil => exact fun _ _ far => ⟨rfl, far⟩
  | cons id kind owner parent children rest below after =>
    intro first second far
    let node : Block := ⟨id, kind, owner, parent, children⟩
    have apart := Forest.nodup_ids_cons distinct
    rw [EquallyFar.cons_iff] at far
    rcases far with ⟨ownFar, childrenFar, restFar⟩
    have nodeFarBefore : EquallyFar actor [node] first.progress second.progress :=
      EquallyFar.singleton_iff.2 ⟨ownFar, childrenFar⟩
    have one := stepNode_equallyFar apart.1 apart.2.2.1 (below apart.2.2.1) nodeFarBefore
    -- the first tree and the rest share no block, so neither walk touches the
    -- entries of the other
    have restKept : forall (now : Instant) (walk : Walk) (block : BlockId),
        block ∈ Forest.ids rest ->
          (stepNode actor now node walk).progress.get? actor block =
            walk.progress.get? actor block :=
      fun now walk block member => get?_stepNode_of_mem_rest distinct walk member
    have nodeKept : forall (now : Instant) (walk : Walk) (block : BlockId),
        block ∈ Forest.ids [node] ->
          (stepForest actor now rest walk).progress.get? actor block =
            walk.progress.get? actor block :=
      fun now walk block member => get?_stepForest_of_mem_first distinct walk member
    have next := after apart.2.2.2.1 _ _
      (restFar.congr (restKept now first) (restKept later second))
    have nodeFar := EquallyFar.singleton_iff.1 (one.2.congr (nodeKept now _) (nodeKept later _))
    rw [executedForest_cons, executedForest_cons, one.1, next.1]
    exact ⟨rfl, EquallyFar.cons_iff.2 ⟨nodeFar.1, nodeFar.2, next.2⟩⟩

/-- Whether two walks of a program cannot be told apart, but for the times of
the bubbles: they announce the same, leave the same cast, and are equally far. -/
structure Indistinguishable (actor : ActorId) (program : Forest) (one other : Walk) : Prop where
  events : one.events = other.events
  cast : one.cast.undated = other.cast.undated
  progress : EquallyFar actor program one.progress other.progress

theorem tickProgram_indistinguishable {program : Forest}
    (distinct : (Forest.ids program).Nodup) {cast other : Cast} {first second : Progress}
    (sameCast : cast.undated = other.undated) (far : EquallyFar actor program first second)
    (now later : Instant) :
    Indistinguishable actor program (tickProgram actor now program cast first)
      (tickProgram actor later program other second) := by
  have paced := keepsPace actor now later distinct ⟨cast, first, []⟩ ⟨other, second, []⟩ far
  have one : Carries actor now _ _ (stepForest actor now program ⟨cast, first, []⟩) :=
    carries_executed program ⟨cast, first, []⟩
  have two : Carries actor later _ _ (stepForest actor later program ⟨other, second, []⟩) :=
    carries_executed program ⟨other, second, []⟩
  have there : cast.contains actor = other.contains actor := by
    rw [← Cast.contains_undated, sameCast, Cast.contains_undated]
  rw [← paced.1] at two
  refine ⟨?_, ?_, paced.2⟩
  · rw [tickProgram, tickProgram, one.events, two.events, there]
  · rw [tickProgram, tickProgram, one.cast, two.cast]
    exact Cast.undated_modify sameCast actor now later _

theorem ticks_indistinguishable {program : Forest} (distinct : (Forest.ids program).Nodup)
    {first second : Progress} (far : EquallyFar actor program first second) (cast : Cast)
    (clock other : Nat -> Instant) (count : Nat) :
    Indistinguishable actor program (ticks actor clock program cast first count)
      (ticks actor other program cast second count) := by
  induction count with
  | zero => exact ⟨rfl, rfl, far⟩
  | succ count step =>
    exact tickProgram_indistinguishable distinct step.cast step.progress (clock count)
      (other count)

end Walk

/-- Entries that are missing make no difference to a program.  Two ticks with
tables that are equally far in it cannot be told apart and leave such tables
again.  So no number of ticks tells a program of blocks without entries from
one that was there when the run began.

The tables may be in any state and need not be those of a run.  The actor may be
missing from the cast; then nothing is said, and the tables still go on alike.
Times are not compared. -/
theorem missing_entries_make_no_difference (actor : ActorId) (program : Forest)
    (distinct : (Forest.ids program).Nodup) :
    (forall (cast other : Cast) (first second : Progress) (now later : Instant),
      cast.undated = other.undated -> Progress.EquallyFar actor program first second ->
        Walk.Indistinguishable actor program (tickProgram actor now program cast first)
          (tickProgram actor later program other second)) ∧
      (forall (cast : Cast) (first second : Progress) (clock other : Nat -> Instant) (count : Nat),
        Progress.EquallyFar actor program first second ->
          Walk.Indistinguishable actor program
            (Walk.ticks actor clock program cast first count)
            (Walk.ticks actor other program cast second count)) ∧
      (forall (store : Programs) (cast : Cast) (clock other : Nat -> Instant) (count : Nat),
        store.forest actor = program ->
          Walk.Indistinguishable actor program
            (Walk.ticks actor clock program cast Progress.empty count)
            (Walk.ticks actor other program cast (Progress.start store.programs) count)) := by
  refine ⟨?_, ?_, ?_⟩
  · intro cast other first second now later sameCast far
    exact Walk.tickProgram_indistinguishable distinct sameCast far now later
  · intro cast first second clock other count far
    exact Walk.ticks_indistinguishable distinct far cast clock other count
  · rintro store cast clock other count rfl
    have fresh : Progress.EquallyFar actor (store.forest actor) Progress.empty
        (Progress.start store.programs) :=
      .empty_of_fresh fun _ member => Progress.get?_start distinct member
    exact Walk.ticks_indistinguishable distinct fresh cast clock other count

section Sample

/-- Some progress in the sample: one round is over, and the greeting is done.
The blocks of the body have no entries. -/
def sampleMissing : Progress :=
  (Progress.empty.put sampleActor.id ⟨Uuid.ofNat 1⟩ ⟨false, 1, some 2⟩).put sampleActor.id
    ⟨Uuid.ofNat 5⟩ ⟨true, 0, none⟩

def sampleSeeded : Progress :=
  ((Progress.empty.seed sampleActor.id sampleProgram).put sampleActor.id ⟨Uuid.ofNat 1⟩
    ⟨false, 1, some 2⟩).put sampleActor.id ⟨Uuid.ofNat 5⟩ ⟨true, 0, none⟩

theorem sampleProgram_without_entries :
    let store := Programs.empty.withForest sampleActor.id sampleProgram
    let cast := Cast.ofActors [sampleActor] 0 0.0
    (Forest.ids sampleProgram).Nodup ∧ store.forest sampleActor.id = sampleProgram ∧
      Progress.EquallyFar sampleActor.id sampleProgram sampleMissing sampleSeeded ∧
      Walk.Indistinguishable sampleActor.id sampleProgram
        (tickProgram sampleActor.id default sampleProgram cast sampleMissing)
        (tickProgram sampleActor.id default sampleProgram cast sampleSeeded) ∧
      Walk.Indistinguishable sampleActor.id sampleProgram
        (Walk.ticks sampleActor.id (fun _ => default) sampleProgram cast Progress.empty 3)
        (Walk.ticks sampleActor.id (fun _ => default) sampleProgram cast
          (Progress.start store.programs) 3) := by
  intro store cast
  have distinct : (Forest.ids sampleProgram).Nodup := by decide
  have placed : store.forest sampleActor.id = sampleProgram :=
    Programs.forest_withForest_self _ _ _
  have far : Progress.EquallyFar sampleActor.id sampleProgram sampleMissing sampleSeeded := by
    decide
  have general := missing_entries_make_no_difference sampleActor.id sampleProgram distinct
  exact ⟨distinct, placed, far, general.1 cast cast _ _ default default rfl far,
    general.2.2 store cast _ _ 3 placed⟩

end Sample

end SpriteStage
