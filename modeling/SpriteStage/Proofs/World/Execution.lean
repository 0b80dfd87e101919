import SpriteStage.Proofs.World.Bystanders
import SpriteStage.Proofs.World.Tracking

namespace SpriteStage

/-!
# A command is executed once

During a run, as long as a command stays at the top level of the program of
one actor that is in no collision, it is executed at most once, whatever else
is done.  It is executed in the first walk of the actor, unless it was done
before.

The reason is a balance: the number of times that the command is executed and
whether it was done before add up to whether it is done after.  Walks keep
the balance because a walk does what is not done.  Every other operation
keeps it because it leaves the entry of the command alone: entries are dropped
only with blocks that leave a program, and they start over only in a loop,
where the command is not, or in a collision.
-/

namespace World

/-- Whether a command of an actor is done in the active run. -/
def isDone (actor : ActorId) (block : BlockId) (world : World) : Bool :=
  match world.run with
  | none => false
  | some run => run.progress.isFinished actor block

/-- Whether a run is active and a command is at the top level of the program
of an actor. -/
structure HasCommand (actor : ActorId) (block : BlockId) (world : World) : Prop where
  active : world.run.isSome = true
  placed : Exists fun node => node ∈ world.programs.forest actor ∧ node.id = block ∧
    node.kind.holdsBlocks = false

/-- Whether throughout a history a run is active, a command stays at the top
level of the program of an actor, and no collision involves the actor. -/
def KeepsCommand (actor : ActorId) (block : BlockId) (world : World) : List Operation -> Prop
  | [] => world.HasCommand actor block
  | operation :: rest =>
    world.HasCommand actor block ∧
      (forall pair, pair ∈ collidedPairs (operation.events world) ->
        pair.involves actor = false) ∧
      (operation.apply world).KeepsCommand actor block rest

instance decidableHasCommand (actor : ActorId) (block : BlockId) (world : World) :
    Decidable (world.HasCommand actor block) :=
  decidable_of_iff
    (world.run.isSome = true ∧ Exists fun node => node ∈ world.programs.forest actor ∧
      node.id = block ∧ node.kind.holdsBlocks = false)
    ⟨fun both => ⟨both.1, both.2⟩, fun has => ⟨has.active, has.placed⟩⟩

instance decidableKeepsCommand (actor : ActorId) (block : BlockId) :
    forall (history : List Operation) (world : World),
      Decidable (world.KeepsCommand actor block history)
  | [], world => decidableHasCommand actor block world
  | operation :: rest, world =>
    have := decidableKeepsCommand actor block rest (operation.apply world)
    inferInstanceAs (Decidable (_ ∧ _ ∧ _))

variable {world after : World} {actor walker : ActorId} {block : BlockId} {now : Instant}
  {operation : Operation}

theorem HasCommand.congr (has : world.HasCommand actor block)
    (samePrograms : after.programs = world.programs)
    (sameActive : after.run.isSome = world.run.isSome) : after.HasCommand actor block where
  active := sameActive.trans has.active
  placed := samePrograms ▸ has.placed

theorem HasCommand.mem_ids (has : world.HasCommand actor block) :
    block ∈ Forest.ids (world.programs.forest actor) := by
  rcases has.placed with ⟨node, top, rfl, _⟩
  exact Forest.mem_ids_of_mem top

theorem KeepsCommand.hasCommand {history : List Operation}
    (keeps : world.KeepsCommand actor block history) : world.HasCommand actor block := by
  cases history with
  | nil => exact keeps
  | cons operation rest => exact keeps.1

theorem keepsCommand_append {first second : List Operation} :
    forall {world : World}, world.KeepsCommand actor block (first ++ second) ->
      world.KeepsCommand actor block first ∧
        (world.after first).KeepsCommand actor block second := by
  induction first with
  | nil => exact fun {world} keeps => ⟨keeps.hasCommand, keeps⟩
  | cons operation rest step =>
    intro world keeps
    have later := step keeps.2.2
    exact ⟨⟨keeps.1, keeps.2.1, later.1⟩, later.2⟩

/-! ## The balance -/

/-- From one world to another a command is executed just if it gets done, and
it is done afterwards if it was done or its actor walks. -/
structure Settles (actor : ActorId) (block : BlockId) (walkers : List ActorId)
    (executed : List (BlockId × Action)) (before after : World) : Prop where
  balance : Walk.timesIn block executed + (before.isDone actor block).toNat =
    (after.isDone actor block).toNat
  done : after.isDone actor block = true <->
    before.isDone actor block = true ∨ actor ∈ walkers

namespace Settles

theorem idle (same : after.isDone actor block = world.isDone actor block) :
    Settles actor block [] [] world after where
  balance := by
    rw [same]
    exact Nat.zero_add _
  done := by
    rw [same]
    simp only [List.not_mem_nil, or_false]

theorem append {first second : List ActorId} {early late : List (BlockId × Action)}
    {middle : World} (one : Settles actor block first early world middle)
    (next : Settles actor block second late middle after) :
    Settles actor block (first ++ second) (early ++ late) world after where
  balance := by
    have oneBalance := one.balance
    have nextBalance := next.balance
    rw [Walk.timesIn_append]
    omega
  done := by
    rw [next.done, one.done, List.mem_append, or_assoc]

end Settles

/-! ## Walks -/

theorem step_active (world : World) :
    (world.step walker now).2.run.isSome = world.run.isSome :=
  (world.step_sameCompany).active

/-- A walk of the actor executes the command if it is not done; a walk of
another actor does not come upon it. -/
theorem step_settles (sound : world.Sound) (has : world.HasCommand actor block) :
    Settles actor block [walker] (world.executedBy walker now) world
      (world.step walker now).2 := by
  rcases Option.isSome_iff_exists.1 has.active with ⟨run, active⟩
  let walk : Walk := ⟨world.cast, run.progress, []⟩
  let walked := Walk.stepForest walker now (world.programs.forest walker) walk
  have executed : world.executedBy walker now =
      Walk.executedForest walker now (world.programs.forest walker) walk := by
    rw [executedBy, active]
  have before : world.isDone actor block = walk.progress.isFinished actor block := by
    rw [isDone, active]
  have later : (world.step walker now).2.isDone actor block =
      walked.progress.isFinished actor block := by
    rw [step, active]
    rfl
  by_cases same : walker = actor
  · rw [same] at executed later ⊢
    rcases has.placed with ⟨node, top, isNode, plain⟩
    have once : Walk.timesIn block
          (Walk.executedForest actor now (world.programs.forest actor) walk) =
          (if walk.progress.isFinished actor block then 0 else 1) ∧
        (Walk.stepForest actor now (world.programs.forest actor) walk).progress.isFinished
          actor block = true :=
      isNode ▸ Walk.top_command_executed plain (sound.programs.distinct actor) top walk
    have done : walked.progress.isFinished actor block = true := by
      subst same
      exact once.2
    refine ⟨?_, ?_⟩
    · rw [executed, once.1, before, later, done]
      cases walk.progress.isFinished actor block <;> rfl
    · rw [later, done]
      exact iff_of_true rfl (Or.inr List.mem_cons_self)
  · have absent : block ∉ Forest.ids (world.programs.forest walker) :=
      fun member => same (sound.programs.owner_unique member has.mem_ids)
    have kept : walked.progress.isFinished actor block =
        walk.progress.isFinished actor block :=
      Walk.isFinished_stepForest_of_notMem walk (Or.inr absent)
    refine ⟨?_, ?_⟩
    · rw [executed, Walk.timesIn_executed_of_notMem walk absent, before, later, kept,
        Nat.zero_add]
    · rw [before, later, kept, List.mem_singleton]
      exact (or_iff_left (Ne.symm same)).symm

theorem walks_settle (walkers : List ActorId) :
    forall world : World, world.Sound -> world.HasCommand actor block ->
      Settles actor block walkers (executedInTurn now walkers world) world
        (collect (fun walker => step walker now) walkers world).2 := by
  induction walkers with
  | nil => exact fun _ _ _ => .idle rfl
  | cons walker rest step =>
    intro world sound has
    have first : Settles actor block [walker] (world.executedBy walker now) world
        (world.step walker now).2 := step_settles sound has
    have hasLater : (world.step walker now).2.HasCommand actor block :=
      has.congr world.step_programs world.step_active
    exact first.append (step _ sound.step hasLater)

/-! ## Sweeps -/

/-- What does not concern the actor does not do its commands. -/
theorem isDone_of_spares {events : List Event} (spares : Spares actor world events after) :
    after.isDone actor block = world.isDone actor block := by
  have entries : forall world : World,
      world.isDone actor block = (world.entryAt? actor block).any Entry.finished := by
    intro world
    rw [isDone, entryAt?]
    cases world.run with
    | none => rfl
    | some run =>
      change run.progress.isFinished actor block =
        (run.progress.get? actor block).any Entry.finished
      rw [Progress.isFinished]
      cases run.progress.get? actor block <;> rfl
  rw [entries, entries, spares.agree.entries block]

theorem round_settles (sound : world.Sound) (has : world.HasCommand actor block)
    (walkers : List ActorId)
    (apart : forall pair, pair ∈ collidedPairs (world.round walkers now).1 ->
      pair.involves actor = false) :
    Settles actor block walkers (executedInTurn now walkers world) world
      (world.round walkers now).2 := by
  let walked := (collect (fun walker => step walker now) walkers world).2
  have walks : Settles actor block walkers (executedInTurn now walkers world) world walked :=
    walks_settle walkers world sound has
  have secluded : walked.programs.Secludes actor := by
    rw [walks_programs]
    exact sound.programs.secludes actor
  have swept : Spares actor walked (walked.sweep now).1 (walked.sweep now).2 := by
    apply sweep_spares secluded
    intro pair member
    apply apart
    rw [round, collidedPairs_append]
    exact List.mem_append_right _ member
  have both := walks.append (.idle (isDone_of_spares swept))
  rwa [List.append_nil, List.append_nil] at both

/-! ## Other operations -/

theorem isDone_congr (sameRun : after.run = world.run) :
    after.isDone actor block = world.isDone actor block := by
  rw [isDone, isDone, sameRun]

theorem isDone_of_kept {change : Run -> Run} (changed : after.run = world.run.map change)
    (kept : forall run, (change run).progress.get? actor block = run.progress.get? actor block) :
    after.isDone actor block = world.isDone actor block := by
  rw [isDone, isDone, changed]
  cases world.run with
  | none => rfl
  | some run =>
    dsimp only [Option.map_some]
    rw [Progress.isFinished, kept, Progress.isFinished]

/-- A tree that leaves a program takes only its own entries with it. -/
theorem isDone_of_forgetTree {owner : ActorId} {node : Block}
    (changed : after.run = world.run.map fun run => run.forgetTree owner node)
    (outside : ¬ (actor = owner ∧ block ∈ node.ids)) :
    after.isDone actor block = world.isDone actor block := by
  apply isDone_of_kept changed
  intro run
  rw [Run.forgetTree, Progress.get?_forgetBlocks, if_neg outside]

/-- An edit after which the command is still in its place leaves its entry
alone, and so does every other operation that does not end the run. -/
theorem isDone_apply (sound : world.programs.Sound) (untimed : ¬ operation.isTimed = true)
    (before : world.HasCommand actor block)
    (later : (operation.apply world).HasCommand actor block) :
    (operation.apply world).isDone actor block = world.isDone actor block := by
  cases operation with
  | spawn fresh =>
    rw [Operation.apply]
    split
    · rename_i next spawned
      rcases spawn_eq_ok spawned with ⟨cast, _, rfl⟩
      rfl
    · rfl
  | rename other name =>
    rw [Operation.apply, rename_world]
    exact isDone_congr rfl
  | place other x y heading =>
    rw [Operation.apply, place_world]
    exact isDone_congr rfl
  | dismiss other =>
    rcases world.dismiss_cases other with same | ⟨removed, cast, _, same⟩
    · rw [Operation.apply, same]
    · have placed := later.mem_ids
      rw [Operation.apply, same, Programs.forest_erase] at placed
      have different : actor ≠ other := by
        rintro rfl
        rw [if_pos rfl] at placed
        exact List.not_mem_nil placed
      have changed : ((Operation.dismiss other).apply world).run =
          world.run.map fun run => run.forget other := by
        rw [Operation.apply, same]
      apply isDone_of_kept changed
      intro run
      rw [Run.forget, Progress.get?_forget, if_neg different]
  | insert node parent other =>
    apply isDone_congr
    rcases world.insert_cases node parent other with same | ⟨programs, _, _, same⟩
    · rw [Operation.apply, same]
    · rw [Operation.apply, same]
  | remove id =>
    rcases world.remove_cases sound id with same | ⟨owner, node, found, same⟩
    · rw [Operation.apply, same]
    · have placed := later.mem_ids
      rw [Operation.apply, same, Programs.forest_withForest] at placed
      have changed : ((Operation.remove id).apply world).run =
          world.run.map fun run => run.forgetTree owner node := by
        rw [Operation.apply, same]
      apply isDone_of_forgetTree changed
      rintro ⟨rfl, inside⟩
      rw [if_pos rfl] at placed
      exact Forest.notMem_prune_of_mem (sound.distinct actor) found inside placed
  | move id target parent =>
    rcases world.move_cases sound id target parent with same | ⟨owner, node, _, found, _, same⟩
    · rw [Operation.apply, same]
    · by_cases within : owner = target
      · rw [if_pos within] at same
        apply isDone_congr
        rw [Operation.apply, same]
      · rw [if_neg within] at same
        have placed := later.mem_ids
        rw [Operation.apply, same, Programs.forest_withForest] at placed
        have changed : ((Operation.move id target parent).apply world).run =
            world.run.map fun run => run.forgetTree owner node := by
          rw [Operation.apply, same]
        apply isDone_of_forgetTree changed
        -- what leaves the program of the actor for another is not there any more
        rintro ⟨rfl, inside⟩
        rw [if_neg within, Programs.forest_withForest_self] at placed
        exact Forest.notMem_prune_of_mem (sound.distinct actor) found inside placed
  | adjust id name value =>
    apply isDone_congr
    rcases world.adjust_cases id name value with same | ⟨programs, _, same⟩
    · rw [Operation.apply, same]
    · rw [Operation.apply, same]
  | start =>
    rcases Option.isSome_iff_exists.1 before.active with ⟨run, active⟩
    rw [Operation.apply, World.start, active]
  | finish => cases later.active
  | restore => rfl
  | tick other generation now => exact absurd rfl untimed
  | tickTogether now => exact absurd rfl untimed
  | sweep now => exact absurd rfl untimed

/-! ## What is executed -/

/-- Let actors carry out commands, each in its turn, and collect what they say.
Nothing comes of the commands of an actor that is gone. -/
def replay (now : Instant) : List (ActorId × List (BlockId × Action)) -> Cast -> List Event × Cast
  | [], cast => ([], cast)
  | (actor, commands) :: rest, cast =>
    let actions := commands.map Prod.snd
    let said := if cast.contains actor then actions.filterMap (Action.event? actor) else []
    let (later, final) := replay now rest (cast.modify actor (Action.effects now actions))
    (said ++ later, final)

/-- Some walks, each with its actor and the commands that it executes. -/
def turns (now : Instant) : List ActorId -> World -> List (ActorId × List (BlockId × Action))
  | [], _ => []
  | actor :: rest, world =>
    (actor, world.executedBy actor now) :: turns now rest (world.step actor now).2

theorem turns_walkers (walkers : List ActorId) :
    forall world : World, (turns now walkers world).map Prod.fst = walkers := by
  induction walkers with
  | nil => exact fun _ => rfl
  | cons walker rest step => exact fun _ => congrArg (walker :: ·) (step _)

theorem turns_executed (walkers : List ActorId) :
    forall world : World,
      (turns now walkers world).flatMap Prod.snd = executedInTurn now walkers world := by
  induction walkers with
  | nil => exact fun _ => rfl
  | cons walker rest step => exact fun world => congrArg (world.executedBy walker now ++ ·) (step _)

theorem replay_turns (now : Instant) (walkers : List ActorId) :
    forall world : World,
      let walked := collect (fun walker => step walker now) walkers world
      replay now (turns now walkers world) world.cast = (walked.1, walked.2.cast) := by
  induction walkers with
  | nil => exact fun _ => rfl
  | cons walker rest step =>
    intro world walked
    have carried := world.step_carries walker now
    have later := step (world.step walker now).2
    dsimp only at carried later
    rw [turns, replay, ← carried.1, ← carried.2, later]
    rfl

/-- What an operation executes is what it does: its walks change the cast and
say just what the commands in the list do and say, each carried out by the actor
whose turn it is.  An operation that is neither a tick nor a sweep executes
nothing. -/
structure CarriesOut (world : World) (operation : Operation) : Prop where
  untimed : ¬ operation.isTimed = true ->
    operation.executed world = [] ∧ operation.events world = []
  timed : operation.isTimed = true -> Exists fun now => Exists fun turns =>
    turns.map Prod.fst = operation.walkers world ∧
      turns.flatMap Prod.snd = operation.executed world ∧
      (operation.apply world).cast = (replay now turns world.cast).2 ∧
      forall speaker, saidBy speaker (operation.events world) =
        saidBy speaker (replay now turns world.cast).1

theorem carriesOut (world : World) (operation : Operation) : world.CarriesOut operation where
  untimed := fun untimed =>
    ⟨by rw [Operation.executed, Operation.round?_of_untimed untimed],
      Operation.events_of_untimed untimed⟩
  timed := by
    intro timed
    rcases Operation.timed_cases timed with
      ⟨none, same, silent⟩ | ⟨walkers, now, chosen, applied, announced⟩
    · refine ⟨default, [], ?_, ?_, ?_, ?_⟩
      · rw [Operation.walkers, none]
        rfl
      · rw [Operation.executed, none]
        rfl
      · rw [same]
        rfl
      · rw [silent]
        exact fun _ => rfl
    · have replayed := replay_turns now walkers world
      refine ⟨now, turns now walkers world, ?_, ?_, ?_, ?_⟩
      · rw [Operation.walkers, chosen, turns_walkers]
      · rw [Operation.executed, chosen, turns_executed]
      · rw [applied, round, sweep_cast, replayed]
      · intro speaker
        rw [announced, round, replayed, saidBy_append, saidBy_sweep, List.append_nil]

/-! ## Whole histories -/

/-- What one operation does to the command. -/
theorem apply_settles (sound : world.Sound) (before : world.HasCommand actor block)
    (later : (operation.apply world).HasCommand actor block)
    (apart : forall pair, pair ∈ collidedPairs (operation.events world) ->
      pair.involves actor = false) :
    Settles actor block (operation.walkers world) (operation.executed world) world
      (operation.apply world) := by
  by_cases timed : operation.isTimed = true
  · rcases Operation.timed_cases timed with
      ⟨none, same, _⟩ | ⟨walkers, now, chosen, applied, announced⟩
    · rw [Operation.walkers, Operation.executed, none, same]
      exact .idle rfl
    · rw [Operation.walkers, Operation.executed, chosen, applied]
      rw [announced] at apart
      exact round_settles sound before walkers apart
  · rw [Operation.walkers, Operation.executed, Operation.round?_of_untimed timed]
    exact .idle (isDone_apply sound.programs timed before later)

theorem history_settles (history : List Operation) :
    forall world : World, world.Sound -> world.Allows history ->
      world.KeepsCommand actor block history ->
      Settles actor block (world.walkers history) (world.executed history) world
        (world.after history) := by
  induction history with
  | nil => exact fun _ _ _ _ => .idle rfl
  | cons operation rest step =>
    intro world sound allowed keeps
    have first := apply_settles sound keeps.1 keeps.2.2.hasCommand keeps.2.1
    exact first.append (step _ (sound.apply operation allowed.1) allowed.2 keeps.2.2)

/-- The first operation of a history in which an actor walks its program. -/
theorem exists_first_walk (history : List Operation) :
    forall world : World, actor ∈ world.walkers history ->
      Exists fun early => Exists fun first => Exists fun late =>
        history = early ++ first :: late ∧ actor ∉ world.walkers early ∧
          actor ∈ first.walkers (world.after early) := by
  induction history with
  | nil => exact fun _ walks => absurd walks List.not_mem_nil
  | cons operation rest step =>
    intro world walks
    by_cases now : actor ∈ operation.walkers world
    · exact ⟨[], operation, rest, rfl, List.not_mem_nil, now⟩
    · rw [walkers, List.mem_append] at walks
      rcases step _ (walks.resolve_left now) with ⟨early, first, late, rfl, none, firstWalks⟩
      refine ⟨operation :: early, first, late, rfl, ?_, firstWalks⟩
      rw [walkers, List.mem_append, not_or]
      exact ⟨now, none⟩

/-- In any stretch of a run in which a command stays at the top level of the
program of an actor that is in no collision, the command is executed at most
once.  If it is not done at the beginning and the actor walks its program, it
is executed once, the first time that the actor walks.

What is counted is what the operations of the stretch do.  Nothing is said of
commands inside loops, nor of how a command of the same block fares after a
collision, where programs start over. -/
theorem command_executed_once {world : World} (created : Created world)
    (before stretch : List Operation) (allowed : world.Allows (before ++ stretch))
    {actor : ActorId} {block : BlockId}
    (keeps : (world.after before).KeepsCommand actor block stretch) :
    let reached := world.after before
    Walk.timesIn block (reached.executed stretch) ≤ 1 ∧
      (reached.isDone actor block = false -> actor ∈ reached.walkers stretch ->
        Walk.timesIn block (reached.executed stretch) = 1 ∧
          Exists fun early => Exists fun first => Exists fun late =>
            stretch = early ++ first :: late ∧ actor ∉ reached.walkers early ∧
              actor ∈ first.walkers (reached.after early) ∧
              Walk.timesIn block (first.executed (reached.after early)) = 1) ∧
      forall early operation late, stretch = early ++ operation :: late ->
        (reached.after early).CarriesOut operation := by
  intro reached
  have apart := allows_append.1 allowed
  have sound : reached.Sound := created.sound.after_history before apart.1
  have whole := history_settles stretch reached sound apart.2 keeps
  refine ⟨?_, ?_, fun early operation _ _ => (reached.after early).carriesOut operation⟩
  · have bound := Bool.toNat_le ((reached.after stretch).isDone actor block)
    have balance := whole.balance
    omega
  · intro unfinished walks
    rcases exists_first_walk stretch reached walks with ⟨early, first, late, rfl, none, firstWalks⟩
    have doneAfter := whole.done.2 (Or.inr walks)
    refine ⟨?_, early, first, late, rfl, none, firstWalks, ?_⟩
    · have balance := whole.balance
      rw [unfinished, doneAfter] at balance
      exact balance
    · have allowedParts := allows_append.1 apart.2
      have keepsParts := keepsCommand_append keeps
      have skipped := history_settles early reached sound allowedParts.1 keepsParts.1
      have soundThere : (reached.after early).Sound := sound.after_history early allowedParts.1
      have own := apply_settles soundThere keepsParts.2.1 keepsParts.2.2.2.hasCommand
        keepsParts.2.2.1
      -- nobody executes it before the first walk of the actor, so it is not done there
      have unfinishedThere : (reached.after early).isDone actor block = false := by
        rw [Bool.eq_false_iff, ne_eq, skipped.done, unfinished]
        exact fun either => either.elim Bool.false_ne_true none
      have balance := own.balance
      rw [unfinishedThere, own.done.2 (Or.inr firstWalks)] at balance
      exact balance

section Sample

def sampleWords : List Operation :=
  [.insert ⟨⟨Uuid.ofNat 1⟩, .look (.say "first"), .nobody, none, []⟩ none ⟨Uuid.ofNat 1⟩,
    .insert ⟨⟨Uuid.ofNat 2⟩, .look (.say "second"), .nobody, none, []⟩ none ⟨Uuid.ofNat 1⟩,
    .start]

/-- The first word goes behind the other one and is changed, between ticks of
both actors; then the other one goes away. -/
def sampleStretch : List Operation :=
  [.move ⟨Uuid.ofNat 1⟩ ⟨Uuid.ofNat 1⟩ none, .tick ⟨Uuid.ofNat 2⟩ 1 default,
    .adjust ⟨Uuid.ofNat 1⟩ "message" (.text "changed"), .tickTogether default,
    .remove ⟨Uuid.ofNat 2⟩, .tick ⟨Uuid.ofNat 1⟩ 1 default]

/-- The actor of the word walks twice and says it once. -/
theorem sampleWord_executed_once :
    let reached := sampleApart.after sampleWords
    Created sampleApart ∧ sampleApart.Allows (sampleWords ++ sampleStretch) ∧
      reached.KeepsCommand ⟨Uuid.ofNat 1⟩ ⟨Uuid.ofNat 1⟩ sampleStretch ∧
      reached.isDone ⟨Uuid.ofNat 1⟩ ⟨Uuid.ofNat 1⟩ = false ∧
      ⟨Uuid.ofNat 1⟩ ∈ reached.walkers sampleStretch ∧
      Walk.timesIn ⟨Uuid.ofNat 1⟩ (reached.executed sampleStretch) = 1 ∧
      saidBy ⟨Uuid.ofNat 1⟩ (reached.events sampleStretch) =
        [("second", none), ("changed", none)] := by
  intro reached
  have allowed : sampleApart.Allows (sampleWords ++ sampleStretch) :=
    ⟨sampleWord_allowed 1 "first", sampleWord_allowed 2 "second", trivial, trivial, trivial,
      trivial, trivial, trivial, trivial, trivial⟩
  have keeps : reached.KeepsCommand ⟨Uuid.ofNat 1⟩ ⟨Uuid.ofNat 1⟩ sampleStretch := by
    decide +kernel
  have unfinished : reached.isDone ⟨Uuid.ofNat 1⟩ ⟨Uuid.ofNat 1⟩ = false := by decide +kernel
  have walks : ⟨Uuid.ofNat 1⟩ ∈ reached.walkers sampleStretch := by decide +kernel
  have once := command_executed_once sampleApart_created sampleWords sampleStretch allowed keeps
  exact ⟨sampleApart_created, allowed, keeps, unfinished, walks, (once.2.1 unfinished walks).1,
    by decide +kernel⟩

end Sample

end World

end SpriteStage
