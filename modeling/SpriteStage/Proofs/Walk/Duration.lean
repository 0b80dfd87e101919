import SpriteStage.Proofs.Walk.Tally

namespace SpriteStage

/-!
# How long a program takes

A command takes one tick, blocks in sequence take as long as the longest of
them, and a loop takes its body once for each of its rounds, each of which
takes at least one tick.  This is the number of ticks after which a program is
done, and not one tick earlier.  By then each command has been executed once
for each round of all loops around it, and from then on nothing happens.
-/

mutual

/-- How many ticks a block takes.  What lies below a command takes no part. -/
def Block.duration : Block -> Nat
  | ⟨_, kind, _, _, children⟩ =>
    match kind with
    | .motion _ | .look _ => 1
    | .control command => command.total * max 1 (Forest.duration children)

def Forest.duration : Forest -> Nat
  | [] => 0
  | node :: rest => max node.duration (Forest.duration rest)

end

namespace Schedule

theorem length_beside (first second : Schedule) :
    (beside first second).length = max first.length second.length := by
  induction first, second using beside.induct with
  | case1 second => simp
  | case2 first rest => simp
  | case3 own first other second step =>
    rw [beside, List.length_cons, step, List.length_cons, List.length_cons, Nat.add_max_add_right]

theorem length_round (body : Schedule) : body.round.length = max 1 body.length := by
  cases body with
  | nil => rfl
  | cons tick rest => exact (Nat.max_eq_right (Nat.le_add_left 1 rest.length)).symm

theorem length_rounds (count : Nat) (body : Schedule) :
    (rounds count body).length = count * max 1 body.length := by
  rw [rounds, List.length_flatten, List.map_replicate, List.sum_replicate_nat, length_round]

end Schedule

/-- A program takes as many ticks as its schedule has. -/
theorem Forest.length_schedule (forest : Forest) : (schedule forest).length = duration forest := by
  induction forest using Forest.induction with
  | nil => rfl
  | cons id kind owner parent children rest below after =>
    rw [schedule_cons, Schedule.length_beside, after, duration]
    congr 1
    cases kind with
    | motion command => rfl
    | look command => rfl
    | control command => rw [Block.schedule, Schedule.length_rounds, below, Block.duration]

namespace Walk

variable {actor : ActorId} {clock : Nat -> Instant} {program : Forest} {cast : Cast}
  {progress : Progress}

/-- What holds after a number of ticks of a program that had not started. -/
structure Completes (actor : ActorId) (clock : Nat -> Instant) (program : Forest) (cast : Cast)
    (progress : Progress) (count : Nat) : Prop where
  /-- The program is done from its duration on, and not before. -/
  done_iff : (ticks actor clock program cast progress count).allFinished actor program = true <->
    Forest.duration program ≤ count
  /-- Each block stands inside loops only, or below a command. -/
  stands : forall node, node ∈ Forest.nodes program ->
    (Exists fun loops => Forest.Looped node loops program) ∨
      Exists fun above => above ∈ Forest.nodes program ∧ above.kind.holdsBlocks = false ∧
        node ∈ Forest.nodes above.children
  /-- When the program is done, a command inside loops has been executed once for
  each round of all of them. -/
  executed : Forest.duration program ≤ count -> forall node loops,
    node.kind.holdsBlocks = false -> Forest.Looped node loops program ->
      timesIn node.id (executedTicks actor clock program cast progress count) =
        (loops.map Control.total).prod
  /-- What lies below a command is never executed. -/
  idle : forall node above, above ∈ Forest.nodes program -> above.kind.holdsBlocks = false ->
    node ∈ Forest.nodes above.children ->
      timesIn node.id (executedTicks actor clock program cast progress count) = 0
  /-- Once the program is done, another tick changes nothing and announces nothing. -/
  quiet : Forest.duration program ≤ count ->
    let before := ticks actor clock program cast progress count
    let after := ticks actor clock program cast progress (count + 1)
    after.events = [] ∧ after.cast = before.cast ∧ after.progress = before.progress
  /-- Another tick executes no command twice and none that is done, and it does
  what the commands do that it executes. -/
  once :
    let before := ticks actor clock program cast progress count
    let after := ticks actor clock program cast progress (count + 1)
    let commands := executedForest actor (clock count) program ⟨before.cast, before.progress, []⟩
    (commands.map Prod.fst).Nodup ∧
      (forall block, block ∈ commands.map Prod.fst ->
        before.progress.isFinished actor block = false) ∧
      after.events = (commands.map Prod.snd).filterMap (Action.event? actor) ∧
      after.cast = before.cast.modify actor (Action.effects (clock count) (commands.map Prod.snd))

/-- A program that has not started is done after just as many ticks as it takes,
with each command executed as often as the loops around it tell.

The executions are those of all ticks so far, in the order in which they were
made.  Before the program is done no number of executions is claimed for a
command, only that no tick executes it twice. -/
theorem ticks_complete (actor : ActorId) (clock : Nat -> Instant) (program : Forest)
    (cast : Cast) (progress : Progress) (distinct : (Forest.ids program).Nodup)
    (present : cast.contains actor = true)
    (unstarted : forall node, node ∈ Forest.nodes program ->
      progress.get? actor node.id = none ∨
        progress.get? actor node.id = some (Entry.fresh node.kind))
    (count : Nat) : Completes actor clock program cast progress count := by
  have fresh : forall node, node ∈ Forest.nodes program ->
      progress.entryOf actor node.id node.kind = Entry.fresh node.kind := by
    intro node member
    rcases unstarted node member with missing | seeded
    · exact Progress.entryOf_of_none missing
    · exact Progress.entryOf_of_some seeded
  let before := ticks actor clock program cast progress count
  have left : Forest.remaining before.progress actor program =
      (Forest.schedule program).drop count := by
    rw [← Forest.remaining_of_unstarted fresh]
    exact remaining_ticks distinct count
  have done_iff : before.allFinished actor program = true <->
      Forest.duration program ≤ count := by
    rw [allFinished_iff, left, List.drop_eq_nil_iff, Forest.length_schedule]
  have balance : forall wanted,
      timesIn wanted (executedTicks actor clock program cast progress count) +
          Forest.owed before.progress actor wanted program =
        Forest.tally wanted program := by
    intro wanted
    rw [← Forest.owed_of_unstarted fresh]
    exact executedTicks_add_owed distinct clock cast progress wanted count
  have there : before.cast.contains actor = true := by
    rw [contains_ticks distinct, present]
  let walk : Walk := ⟨before.cast, before.progress, []⟩
  have carried : Carries actor (clock count) _ walk
      (stepForest actor (clock count) program walk) := carries_executed program walk
  refine ⟨done_iff, fun _ => Forest.looped_or_below, ?_, ?_, ?_, ?_⟩
  · intro late node loops plain looped
    have settled := balance node.id
    rw [owed_of_allFinished (done_iff.2 late), Nat.add_zero] at settled
    exact settled.trans (Forest.tally_of_looped plain looped distinct)
  · intro node above member plain under
    have settled := balance node.id
    rw [Forest.tally_of_below distinct member plain under] at settled
    exact (Nat.add_eq_zero_iff.1 settled).1
  · intro late before after
    have nothing : Forest.remaining before.progress actor program = [] :=
      allFinished_iff.1 (done_iff.2 late)
    have same : after = ⟨before.cast, before.progress, []⟩ :=
      stepForest_of_nothing_left program nothing
    rw [same]
    exact ⟨rfl, rfl, rfl⟩
  · refine ⟨(executed_sublist program _).nodup distinct, ?_, ?_, carried.cast⟩
    · exact fun _ => isFinished_of_executed distinct _
    · exact carried.events.trans ((List.nil_append _).trans (if_pos there))

section Sample

/-- The sample takes four ticks, two for each round of the outer loop.  Its word
is said in each of them, and the other word once a round. -/
theorem sampleProgram_completes :
    let cast := Cast.ofActors [sampleActor] 0 0.0
    let commands :=
      executedTicks sampleActor.id (fun _ => default) sampleProgram cast Progress.empty 4
    (Forest.ids sampleProgram).Nodup ∧ cast.contains sampleActor.id = true ∧
      Forest.duration sampleProgram = 4 ∧
      Completes sampleActor.id (fun _ => default) sampleProgram cast Progress.empty 4 ∧
      timesIn ⟨Uuid.ofNat 3⟩ commands = 4 ∧ timesIn ⟨Uuid.ofNat 4⟩ commands = 2 := by
  intro cast commands
  have distinct : (Forest.ids sampleProgram).Nodup := by decide
  have present : cast.contains sampleActor.id = true := by rfl
  have duration : Forest.duration sampleProgram = 4 := by decide +kernel
  have completes := ticks_complete sampleActor.id (fun _ => default) sampleProgram cast
    Progress.empty distinct present (fun _ _ => Or.inl rfl) 4
  have word : Forest.Looped ⟨⟨Uuid.ofNat 3⟩, .look (.say "word"), sampleActor.id,
      some ⟨Uuid.ofNat 2⟩, []⟩ [.times 2, .times 2] sampleProgram :=
    .inside List.mem_cons_self (.inside List.mem_cons_self (.top List.mem_cons_self))
  have other : Forest.Looped ⟨⟨Uuid.ofNat 4⟩, .look (.say "other"), sampleActor.id,
      some ⟨Uuid.ofNat 1⟩, []⟩ [.times 2] sampleProgram :=
    .inside List.mem_cons_self (.top (List.mem_cons_of_mem _ List.mem_cons_self))
  have late : Forest.duration sampleProgram ≤ 4 := Nat.le_of_eq duration
  exact ⟨distinct, present, duration, completes,
    (completes.executed late _ _ rfl word).trans (by decide +kernel),
    (completes.executed late _ _ rfl other).trans (by decide +kernel)⟩

end Sample

end Walk

end SpriteStage
