import SpriteStage.Proofs.Walk.Effect
import SpriteStage.Proofs.Walk.Frame

namespace SpriteStage

/-!
# A program follows its schedule

The walk of a tick reads and changes a table of entries.  Here it is shown to
do what the schedule of the program says, which knows nothing of the table.
The link is `Forest.remaining`, the rest of the schedule by the entries of a
run: every walk carries out the first tick of it and leaves its tail.  This
holds for entries in any state.  For a program that has not started the rest
is the whole schedule, and so the walks of a run carry it out tick by tick.
-/

namespace Walk

variable {actor : ActorId} {now : Instant}

/-- A walk goes on by carrying out actions: the actor undergoes their effects
and, if it is there, announces what they say. -/
structure Carries (actor : ActorId) (now : Instant) (actions : List Action)
    (before after : Walk) : Prop where
  cast : after.cast = before.cast.modify actor (Action.effects now actions)
  events : after.events = before.events ++
    if before.cast.contains actor then actions.filterMap (Action.event? actor) else []

namespace Carries

theorem none {before after : Walk} (sameCast : after.cast = before.cast)
    (sameEvents : after.events = before.events) : Carries actor now [] before after where
  cast := sameCast.trans (Cast.modify_same before.cast actor).symm
  events := by simp [sameEvents]

theorem append {first second : List Action} {before middle after : Walk}
    (one : Carries actor now first before middle)
    (next : Carries actor now second middle after) :
    Carries actor now (first ++ second) before after where
  cast := by
    rw [next.cast, one.cast, Cast.modify_modify (Action.id_effects now first)]
    exact congrArg _ (funext fun other => (Action.effects_append now first second other).symm)
  events := by
    have there : middle.cast.contains actor = before.cast.contains actor := by
      rw [one.cast, Cast.contains_modify (Action.id_effects now first)]
    rw [next.events, one.events, there, List.append_assoc, List.filterMap_append]
    split <;> simp

theorem withProgress {actions : List Action} {before after : Walk} (progress : Progress)
    (carried : Carries actor now actions before after) :
    Carries actor now actions before { after with progress := progress } :=
  ⟨carried.cast, carried.events⟩

theorem move (walk : Walk) (command : Motion) :
    Carries actor now [.motion command] walk (walk.move actor command) where
  cast := congrArg (walk.cast.modify actor)
    (funext fun other => (Action.effect_motion now command other).symm)
  events := by simp [Walk.move, Action.event?]

theorem look (walk : Walk) (command : Look) :
    Carries actor now [.look command] walk (walk.look actor now command) where
  cast := by
    unfold Walk.look
    split
    · exact congrArg (walk.cast.modify actor)
        (funext fun other => (Action.effect_look now command other).symm)
    · rename_i absent
      exact (Cast.modify_of_absent _ absent).symm
  events := by
    unfold Walk.look
    split
    · exact congrArg (fun event? => walk.events ++ event?.toList)
        (Action.event?_look actor command).symm
    · exact (List.append_nil walk.events).symm

end Carries

end Walk

/-! ## The rest of a schedule -/

namespace Forest

variable {actor : ActorId} {first second progress : Progress}

@[simp] theorem remaining_cons (progress : Progress) (actor : ActorId) (node : Block)
    (rest : Forest) :
    remaining progress actor (node :: rest) =
      (node.remaining progress actor).beside (remaining progress actor rest) := rfl

theorem remaining_singleton (progress : Progress) (actor : ActorId) (node : Block) :
    remaining progress actor [node] = node.remaining progress actor :=
  Schedule.beside_nil _

/-- The rest depends only on the entries of the blocks of the forest. -/
theorem remaining_congr {forest : Forest}
    (same : forall id, id ∈ ids forest -> first.get? actor id = second.get? actor id) :
    remaining first actor forest = remaining second actor forest := by
  induction forest using Forest.induction with
  | nil => rfl
  | cons id kind owner parent children rest below after =>
    simp only [ids_cons, List.mem_cons, List.mem_append] at same
    have sameEntry : first.entryOf actor id kind = second.entryOf actor id kind :=
      Progress.entryOf_congr (same id (Or.inl rfl))
    rw [remaining_cons, remaining_cons, Block.remaining.eq_def, Block.remaining.eq_def]
    dsimp only
    rw [sameEntry, below fun block member => same block (Or.inr (Or.inl member)),
      after fun block member => same block (Or.inr (Or.inr member))]

/-- Before a program has started, all of its schedule is left. -/
theorem remaining_of_unstarted {forest : Forest}
    (unstarted : forall node, node ∈ nodes forest ->
      progress.entryOf actor node.id node.kind = Entry.fresh node.kind) :
    remaining progress actor forest = schedule forest := by
  induction forest using Forest.induction with
  | nil => rfl
  | cons id kind owner parent children rest below after =>
    simp only [nodes_cons, List.mem_cons, List.mem_append] at unstarted
    have own : progress.entryOf actor id kind = Entry.fresh kind := unstarted _ (Or.inl rfl)
    rw [remaining_cons, schedule_cons,
      after fun node member => unstarted node (Or.inr (Or.inr member))]
    congr 1
    cases kind with
    | motion command => rw [Block.remaining, own]; rfl
    | look command => rw [Block.remaining, own]; rfl
    | control command =>
      rw [Block.remaining, Block.schedule, own,
        below fun node member => unstarted node (Or.inr (Or.inl member))]
      rcases Nat.exists_eq_add_of_le' command.one_le_rounds with ⟨count, total⟩
      simp [Entry.fresh, Kind.rounds?, ← Control.rounds_eq_total, total, Schedule.rounds_succ]

theorem remaining_seed {forest : Forest} (distinct : (ids forest).Nodup)
    (progress : Progress) (actor : ActorId) :
    remaining (progress.seed actor forest) actor forest = schedule forest := by
  apply remaining_of_unstarted
  intro node member
  apply Progress.entryOf_of_some
  exact Progress.get?_seed_of_mem forest progress distinct (List.mem_map_of_mem member)

end Forest

theorem Block.remaining_eq_nil_iff {progress : Progress} {actor : ActorId} {node : Block} :
    node.remaining progress actor = [] <-> progress.isFinished actor node.id = true := by
  rcases node with ⟨id, kind, owner, parent, children⟩
  rw [Progress.isFinished_eq_entryOf progress actor id kind, Block.remaining.eq_def]
  dsimp only
  cases finished : (progress.entryOf actor id kind).finished with
  | true => simp
  | false =>
    cases kind with
    | motion command => simp
    | look command => simp
    | control command =>
      simp only [Bool.false_eq_true, if_false, iff_false]
      split
      · simp
      · exact fun empty => Schedule.round_ne_nil _ (List.append_eq_nil_iff.1 empty).1

namespace Block

variable {progress : Progress} {actor : ActorId} {id : BlockId} {owner : ActorId}
  {parent : Option BlockId} {children : Forest}

theorem remaining_motion {command : Motion} (unfinished : ¬ progress.isFinished actor id = true) :
    remaining progress actor ⟨id, .motion command, owner, parent, children⟩ =
      [[.motion command]] := by
  rw [Progress.isFinished_eq_entryOf _ actor id (.motion command)] at unfinished
  rw [remaining]
  exact if_neg unfinished

theorem remaining_look {command : Look} (unfinished : ¬ progress.isFinished actor id = true) :
    remaining progress actor ⟨id, .look command, owner, parent, children⟩ =
      [[.look command]] := by
  rw [Progress.isFinished_eq_entryOf _ actor id (.look command)] at unfinished
  rw [remaining]
  exact if_neg unfinished

theorem remaining_complete {command : Control}
    (unfinished : ¬ progress.isFinished actor id = true)
    (complete : (progress.entryOf actor id (.control command)).target.getD 1 ≤
      (progress.entryOf actor id (.control command)).completed) :
    remaining progress actor ⟨id, .control command, owner, parent, children⟩ = [[]] := by
  rw [Progress.isFinished_eq_entryOf _ actor id (.control command)] at unfinished
  rw [remaining]
  exact (if_neg unfinished).trans (if_pos complete)

theorem remaining_of_pending {entry : Entry} {command : Control}
    (found : progress.entryOf actor id (.control command) = entry)
    (unfinished : entry.finished = false)
    (pending : ¬ entry.target.getD 1 ≤ entry.completed) :
    remaining progress actor ⟨id, .control command, owner, parent, children⟩ =
      (Forest.remaining progress actor children).round ++
        (Forest.schedule children).rounds (entry.target.getD 1 - entry.completed - 1) := by
  rw [remaining, found]
  simp only [unfinished, Bool.false_eq_true, if_false, if_neg pending]

end Block

/-- Nothing is left of a sequence just when all of its blocks are done. -/
theorem Walk.allFinished_iff {actor : ActorId} {walk : Walk} {forest : Forest} :
    walk.allFinished actor forest = true <->
      Forest.remaining walk.progress actor forest = [] := by
  induction forest with
  | nil => simp [Walk.allFinished, Forest.remaining]
  | cons node rest step =>
    rw [Forest.remaining_cons, Schedule.beside_eq_nil_iff, Block.remaining_eq_nil_iff, ← step]
    simp [Walk.allFinished]

/-! ## One tick -/

namespace Walk

variable {actor : ActorId} {now : Instant}

/-- A walk that is a tick of a schedule: it carries out the first tick of what
was left before it, and leaves the tail. -/
structure Advances (actor : ActorId) (now : Instant) (left rest : Schedule)
    (before after : Walk) : Prop where
  carried : Carries actor now (left.tick 0) before after
  rest_eq : rest = left.tail

section Node

variable {id : BlockId} {kind : Kind} {owner : ActorId} {parent : Option BlockId}
  {children : Forest} {walk : Walk}

theorem isFinished_finish (walk : Walk) (actor : ActorId) (id : BlockId) (kind : Kind) :
    (walk.finish actor id kind).progress.isFinished actor id = true := by
  rw [finish, Progress.isFinished, Progress.markFinished, Progress.get?_put_self]

theorem remaining_finish (walk : Walk) :
    Block.remaining (walk.finish actor id kind).progress actor
      ⟨id, kind, owner, parent, children⟩ = [] :=
  Block.remaining_eq_nil_iff.2 (isFinished_finish walk actor id kind)

/-- Entering a block leaves its schedule as it was: a missing entry counts as
the fresh one that is put in its place. -/
theorem remaining_opened (apart : id ∉ Forest.ids children) :
    Forest.remaining (walk.opened actor id kind).progress actor children =
      Forest.remaining walk.progress actor children := by
  apply Forest.remaining_congr
  intro block member
  apply Progress.get?_ensure_of_ne
  exact Or.inr fun same => apart (same ▸ member)

/-- After a round whose body is done, the rounds due after it are left. -/
theorem remaining_closeRound {command : Control} {entry : Entry}
    (apart : id ∉ Forest.ids children) (distinct : (Forest.ids children).Nodup)
    (found : walk.progress.get? actor id = some entry) (unfinished : entry.finished = false) :
    Block.remaining (walk.closeRound actor id (.control command) (entry.target.getD 1)
        children).progress actor ⟨id, .control command, owner, parent, children⟩ =
      (Forest.schedule children).rounds (entry.target.getD 1 - entry.completed - 1) := by
  have entryIs : walk.progress.entryOf actor id (.control command) = entry :=
    Progress.entryOf_of_some found
  unfold closeRound Progress.completeRound
  simp only [entryIs]
  split
  · rename_i last
    have none : entry.target.getD 1 - entry.completed - 1 = 0 := by omega
    rw [none]
    exact remaining_finish ⟨walk.cast, _, walk.events⟩
  · rename_i more
    have counted : ((walk.progress.put actor id
        { entry with completed := entry.completed + 1 }).seed actor children).get? actor id =
          some { entry with completed := entry.completed + 1 } := by
      rw [Progress.get?_seed_of_notMem _ _ (Or.inr apart), Progress.get?_put_self]
    rw [Block.remaining_of_pending (Progress.entryOf_of_some counted) unfinished more,
      Forest.remaining_seed distinct, ← Schedule.rounds_succ]
    congr 1
    dsimp only
    omega

end Node

theorem round_advances {id : BlockId} {command : Control} {owner : ActorId}
    {parent : Option BlockId} {children : Forest} (apart : id ∉ Forest.ids children)
    (distinct : (Forest.ids children).Nodup)
    (below : forall walk : Walk, Advances actor now (Forest.remaining walk.progress actor children)
      (Forest.remaining (stepForest actor now children walk).progress actor children) walk
      (stepForest actor now children walk))
    {walk : Walk} (started : ¬ walk.progress.isFinished actor id = true)
    (pending : ¬ due actor id (.control command) walk ≤
      (walk.progress.entryOf actor id (.control command)).completed) :
    let node : Block := ⟨id, .control command, owner, parent, children⟩
    let inside := stepForest actor now children (walk.opened actor id (.control command))
    let after := if inside.allFinished actor children then
        inside.closeRound actor id (.control command) (due actor id (.control command) walk)
          children
      else inside
    Advances actor now (node.remaining walk.progress actor) (node.remaining after.progress actor)
      walk after := by
  intro node inside after
  obtain ⟨entry, entryIs⟩ : Exists fun entry =>
      walk.progress.entryOf actor id (.control command) = entry := ⟨_, rfl⟩
  have dueIs : due actor id (.control command) walk = entry.target.getD 1 := by
    rw [due, entryIs]
  rw [dueIs, entryIs] at pending
  have unfinished : entry.finished = false := by
    rw [Progress.isFinished_eq_entryOf _ actor id (.control command), entryIs] at started
    exact Bool.eq_false_iff.2 started
  have whole : node.remaining walk.progress actor =
      (Forest.remaining walk.progress actor children).round ++
        (Forest.schedule children).rounds (entry.target.getD 1 - entry.completed - 1) :=
    Block.remaining_of_pending entryIs unfinished pending
  have advanced := below (walk.opened actor id (.control command))
  rw [remaining_opened apart] at advanced
  have own : inside.progress.get? actor id = some entry := by
    rw [← entryIs]
    exact get?_inside apart walk
  have carried : Carries actor now ((node.remaining walk.progress actor).tick 0) walk inside := by
    rw [whole, Schedule.tick_zero_append _ (Schedule.round_ne_nil _), Schedule.tick_zero_round]
    exact ⟨advanced.carried.cast, advanced.carried.events⟩
  by_cases done : inside.allFinished actor children = true
  · have after_eq : after = inside.closeRound actor id (.control command)
        (entry.target.getD 1) children := by rw [← dueIs]; exact if_pos done
    have short : (Forest.remaining walk.progress actor children).tail = [] := by
      rw [← advanced.rest_eq]
      exact allFinished_iff.1 done
    rw [after_eq]
    refine ⟨?_, ?_⟩
    · unfold closeRound
      dsimp only
      split <;> exact carried.withProgress _
    · rw [remaining_closeRound apart distinct own unfinished, whole, List.tail_append_of_ne_nil
        (Schedule.round_ne_nil _), Schedule.tail_round_of_tail_eq_nil short, List.nil_append]
  · have after_eq : after = inside := if_neg done
    have long : (Forest.remaining walk.progress actor children).tail ≠ [] := by
      rw [← advanced.rest_eq]
      exact fun empty => done (allFinished_iff.2 empty)
    rw [after_eq]
    refine ⟨carried, ?_⟩
    rw [Block.remaining_of_pending (Progress.entryOf_of_some own) unfinished pending, whole,
      List.tail_append_of_ne_nil (Schedule.round_ne_nil _),
      Schedule.tail_round_of_tail_ne_nil long, ← advanced.rest_eq]

theorem stepNode_advances {id : BlockId} {kind : Kind} {owner : ActorId}
    {parent : Option BlockId} {children : Forest} (apart : id ∉ Forest.ids children)
    (distinct : (Forest.ids children).Nodup)
    (below : forall walk : Walk, Advances actor now (Forest.remaining walk.progress actor children)
      (Forest.remaining (stepForest actor now children walk).progress actor children) walk
      (stepForest actor now children walk))
    (walk : Walk) :
    let node : Block := ⟨id, kind, owner, parent, children⟩
    Advances actor now (node.remaining walk.progress actor)
      (node.remaining (stepNode actor now node walk).progress actor) walk
      (stepNode actor now node walk) := by
  intro node
  by_cases finished : walk.progress.isFinished actor id = true
  · have nothing : node.remaining walk.progress actor = [] :=
      Block.remaining_eq_nil_iff.2 finished
    rw [stepNode_of_finished finished, nothing]
    exact ⟨Carries.none rfl rfl, rfl⟩
  · cases kind with
    | motion command =>
      rw [stepNode_motion finished, remaining_finish, Block.remaining_motion finished]
      exact ⟨(Carries.move walk command).withProgress _, rfl⟩
    | look command =>
      rw [stepNode_look finished, remaining_finish, Block.remaining_look finished]
      exact ⟨(Carries.look walk command).withProgress _, rfl⟩
    | control command =>
      by_cases complete : due actor id (.control command) walk ≤
          (walk.progress.entryOf actor id (.control command)).completed
      · rw [stepNode_control_complete finished complete, remaining_finish,
          Block.remaining_complete finished complete]
        exact ⟨Carries.none rfl rfl, rfl⟩
      · rw [stepNode_control_round finished complete]
        exact round_advances apart distinct below finished complete

/-- A walk carries out the next tick of what is left of the schedule of its
forest. -/
theorem stepForest_advances (actor : ActorId) (now : Instant) (forest : Forest) :
    forall walk : Walk, (Forest.ids forest).Nodup ->
      Advances actor now (Forest.remaining walk.progress actor forest)
        (Forest.remaining (stepForest actor now forest walk).progress actor forest) walk
        (stepForest actor now forest walk) := by
  induction forest using Forest.induction with
  | nil => exact fun walk _ => ⟨Carries.none rfl rfl, rfl⟩
  | cons id kind owner parent children rest below after =>
    intro walk distinct
    let node : Block := ⟨id, kind, owner, parent, children⟩
    let middle := stepNode actor now node walk
    let final := stepForest actor now rest middle
    have apart := Forest.nodup_ids_cons distinct
    have first : Advances actor now (node.remaining walk.progress actor)
        (node.remaining middle.progress actor) walk middle :=
      stepNode_advances apart.1 apart.2.2.1 (fun inner => below inner apart.2.2.1) walk
    have later := after middle apart.2.2.2.1
    -- the first tree and the rest share no block, so neither walk touches what
    -- is left of the other
    have restKept : Forest.remaining middle.progress actor rest =
        Forest.remaining walk.progress actor rest := by
      apply Forest.remaining_congr
      exact fun block member => get?_stepNode_of_mem_rest distinct walk member
    have nodeKept : node.remaining final.progress actor =
        node.remaining middle.progress actor := by
      rw [← Forest.remaining_singleton, ← Forest.remaining_singleton]
      apply Forest.remaining_congr
      exact fun block member => get?_stepForest_of_mem_first distinct middle member
    rw [restKept] at later
    rw [stepForest_cons, Forest.remaining_cons, Forest.remaining_cons]
    refine ⟨?_, ?_⟩
    · rw [Schedule.tick_beside]
      exact first.carried.append later.carried
    · rw [nodeKept, later.rest_eq, first.rest_eq, Schedule.tail_beside]

/-- When nothing is left of the schedule, a walk changes nothing at all. -/
theorem stepForest_of_nothing_left (forest : Forest) {walk : Walk}
    (nothing : Forest.remaining walk.progress actor forest = []) :
    stepForest actor now forest walk = walk := by
  induction forest with
  | nil => rfl
  | cons node rest step =>
    rw [Forest.remaining_cons, Schedule.beside_eq_nil_iff, Block.remaining_eq_nil_iff] at nothing
    rw [stepForest_cons]
    rcases node with ⟨id, kind, owner, parent, children⟩
    rw [stepNode_of_finished nothing.1, step nothing.2]

/-! ## A run of ticks -/

/-- The walk of the last of a number of ticks, each of which starts from what
the one before it left.  The clock tells when each of them is.  Only the
events of the last tick are kept. -/
def ticks (actor : ActorId) (clock : Nat -> Instant) (program : Forest) (cast : Cast)
    (progress : Progress) : Nat -> Walk
  | 0 => ⟨cast, progress, []⟩
  | count + 1 =>
    let before := ticks actor clock program cast progress count
    tickProgram actor (clock count) program before.cast before.progress

variable {clock : Nat -> Instant} {program : Forest} {cast : Cast} {progress : Progress}

/-- After a number of ticks, the rest of the schedule is what they left out. -/
theorem remaining_ticks (distinct : (Forest.ids program).Nodup) (count : Nat) :
    Forest.remaining (ticks actor clock program cast progress count).progress actor program =
      (Forest.remaining progress actor program).drop count := by
  induction count with
  | zero => rfl
  | succ count step =>
    have advanced := stepForest_advances actor (clock count) program
      ⟨(ticks actor clock program cast progress count).cast,
        (ticks actor clock program cast progress count).progress, []⟩ distinct
    rw [← List.tail_drop, ← step]
    exact advanced.rest_eq

theorem contains_ticks (distinct : (Forest.ids program).Nodup)
    (count : Nat) :
    (ticks actor clock program cast progress count).cast.contains actor =
      cast.contains actor := by
  induction count with
  | zero => rfl
  | succ count step =>
    have advanced := stepForest_advances actor (clock count) program
      ⟨(ticks actor clock program cast progress count).cast,
        (ticks actor clock program cast progress count).progress, []⟩ distinct
    rw [← step, ticks, tickProgram, advanced.carried.cast,
      Cast.contains_modify (Action.id_effects _ _)]

end Walk

/-- The ticks of a program that has not started carry out its schedule, one
tick of it at a time: each announces what the look commands of its tick say,
in order, and changes nothing of the cast but the actor, which undergoes the
effects of all its actions.  Past the end of the schedule nothing happens.

Only the identifiers of the program have to be distinct, because entries are
kept under them.  Each block may have a fresh entry or none, and what the table
holds for other blocks and actors does not matter.  There is no bound on how
deep loops are nested, nor on their counts.  The sine and the cosine of a
heading are taken as they are. -/
theorem ticks_follow_schedule (actor : ActorId) (clock : Nat -> Instant) (program : Forest)
    (cast : Cast) (progress : Progress) (distinct : (Forest.ids program).Nodup)
    (present : cast.contains actor = true)
    (unstarted : forall node, node ∈ Forest.nodes program ->
      progress.get? actor node.id = none ∨
        progress.get? actor node.id = some (Entry.fresh node.kind))
    (index : Nat) :
    let before := Walk.ticks actor clock program cast progress index
    let after := Walk.ticks actor clock program cast progress (index + 1)
    let actions := (Forest.schedule program).tick index
    after.events = actions.filterMap (Action.event? actor) ∧
      after.cast = before.cast.modify actor (Action.effects (clock index) actions) ∧
      after.cast.get? actor =
        (before.cast.get? actor).map (Action.effects (clock index) actions) ∧
      ((Forest.schedule program).length ≤ index ->
        after.events = [] ∧ after.cast = before.cast ∧ after.progress = before.progress) := by
  intro before after actions
  have whole : Forest.remaining progress actor program = Forest.schedule program := by
    apply Forest.remaining_of_unstarted
    intro node member
    rcases unstarted node member with missing | fresh
    · exact Progress.entryOf_of_none missing
    · exact Progress.entryOf_of_some fresh
  have left : Forest.remaining before.progress actor program =
      (Forest.schedule program).drop index := by
    rw [← whole]
    exact Walk.remaining_ticks distinct index
  have there : before.cast.contains actor = true := by
    rw [Walk.contains_ticks distinct, present]
  have advanced := Walk.stepForest_advances actor (clock index) program
    ⟨before.cast, before.progress, []⟩ distinct
  have commandsAre : Schedule.tick (Forest.remaining before.progress actor program) 0 =
      actions := by
    rw [left, Schedule.tick_drop, Nat.add_zero]
  have carried : Walk.Carries actor (clock index) actions ⟨before.cast, before.progress, []⟩
      after := commandsAre ▸ advanced.carried
  refine ⟨?_, carried.cast, ?_, ?_⟩
  · rw [carried.events, if_pos there, List.nil_append]
  · rw [carried.cast, Cast.get?_modify (Action.id_effects _ _), if_pos rfl]
  · intro past
    have nothing : Forest.remaining before.progress actor program = [] :=
      left.trans (List.drop_eq_nil_of_le past)
    have same : after = ⟨before.cast, before.progress, []⟩ :=
      Walk.stepForest_of_nothing_left program nothing
    rw [same]
    exact ⟨rfl, rfl, rfl⟩

section Sample

def sampleActor : Actor :=
  Actor.create ⟨Uuid.ofNat 1⟩ "Speaker" (Pose.facing 0.0 0.0 90.0) "#FF5722"

/-- Two rounds of two words and one other word, beside a greeting. -/
def sampleProgram : Forest :=
  [⟨⟨Uuid.ofNat 1⟩, .control (.times 2), sampleActor.id, none,
      [⟨⟨Uuid.ofNat 2⟩, .control (.times 2), sampleActor.id, some ⟨Uuid.ofNat 1⟩,
          [⟨⟨Uuid.ofNat 3⟩, .look (.say "word"), sampleActor.id, some ⟨Uuid.ofNat 2⟩, []⟩]⟩,
        ⟨⟨Uuid.ofNat 4⟩, .look (.say "other"), sampleActor.id, some ⟨Uuid.ofNat 1⟩, []⟩]⟩,
    ⟨⟨Uuid.ofNat 5⟩, .look (.say "greeting"), sampleActor.id, none, []⟩]

/-- Two rounds of a body whose first block turns in both of its rounds, beside a
jump. -/
def sampleCourse : Forest :=
  [⟨⟨Uuid.ofNat 1⟩, .control (.times 2), sampleActor.id, none,
      [⟨⟨Uuid.ofNat 2⟩, .control (.times 2), sampleActor.id, some ⟨Uuid.ofNat 1⟩,
          [⟨⟨Uuid.ofNat 3⟩, .motion (.turn 120.0), sampleActor.id, some ⟨Uuid.ofNat 2⟩, []⟩]⟩,
        ⟨⟨Uuid.ofNat 4⟩, .motion (.move 10.0), sampleActor.id, some ⟨Uuid.ofNat 1⟩, []⟩,
        ⟨⟨Uuid.ofNat 5⟩, .look (.sayFor "round" 2.5), sampleActor.id, some ⟨Uuid.ofNat 1⟩, []⟩]⟩,
    ⟨⟨Uuid.ofNat 6⟩, .motion (.goTo 3.0 4.0), sampleActor.id, none, []⟩]

/-- The first tick turns, moves, speaks and jumps, and the second turns once more.
The third begins the second round: it turns past the full circle, moves from
where the jump led and speaks again.  The fifth has nothing left to do. -/
theorem ticks_of_sampleCourse :
    let ticks := Walk.ticks sampleActor.id (fun _ => default) sampleCourse
      (Cast.ofActors [sampleActor] 0 0.0) Progress.empty
    let pose? := fun count => ((ticks count).cast.get? sampleActor.id).map Actor.pose
    let angle : Float := 90.0 * (Pose.pi / 180.0)
    (Forest.ids sampleCourse).Nodup ∧
      (Cast.ofActors [sampleActor] 0 0.0).contains sampleActor.id = true ∧
      (ticks 1).events = [.said sampleActor.id "round" (some 2.5)] ∧
      pose? 1 = some ⟨3.0, 4.0, 210.0⟩ ∧
      (ticks 2).events = [] ∧ pose? 2 = some ⟨3.0, 4.0, 330.0⟩ ∧
      (ticks 3).events = [.said sampleActor.id "round" (some 2.5)] ∧
      pose? 3 = some ⟨3.0 + angle.sin * 10.0, 4.0 + -angle.cos * 10.0, 90.0⟩ ∧
      ((ticks 3).cast.get? sampleActor.id).bind Actor.speech = some ⟨"round", some 2.5, default⟩ ∧
      (ticks 5).events = [] ∧ (ticks 5).cast = (ticks 4).cast := by
  intro ticks pose? angle
  have distinct : (Forest.ids sampleCourse).Nodup := by decide
  have present : (Cast.ofActors [sampleActor] 0 0.0).contains sampleActor.id = true := by rfl
  have followed := ticks_follow_schedule sampleActor.id (fun _ => default) sampleCourse
    (Cast.ofActors [sampleActor] 0 0.0) Progress.empty distinct present (fun _ _ => Or.inl rfl)
  have poses : forall index, pose? (index + 1) =
      (pose? index).map (((Forest.schedule sampleCourse).tick index).foldl
        fun pose action => action.pose pose) := by
    intro index
    change ((ticks (index + 1)).cast.get? sampleActor.id).map Actor.pose = _
    rw [(followed index).2.2.1, Option.map_map, Option.map_map]
    exact congrArg (Option.map · _) (funext (Action.pose_effects _ _))
  have jumped : pose? 1 = some ⟨3.0, 4.0, 210.0⟩ := (poses 0).trans (by decide +kernel)
  have turned : pose? 2 = some ⟨3.0, 4.0, 330.0⟩ := by
    rw [poses 1, jumped]
    decide +kernel
  have moved : pose? 3 = some ⟨3.0 + angle.sin * 10.0, 4.0 + -angle.cos * 10.0, 90.0⟩ := by
    have wrapped : Number.wrapDegrees (330.0 + 120.0) = 90.0 := by decide +kernel
    have kept : Number.wrapDegrees 90.0 = 90.0 := by decide +kernel
    have again : (Forest.schedule sampleCourse).tick 2 =
        [.motion (.turn 120.0), .motion (.move 10.0), .look (.sayFor "round" 2.5)] := by rfl
    rw [poses 2, turned, again]
    simp only [Option.map_some, List.foldl, Action.pose, wrapped, kept, angle]
  have spoken : ((ticks 3).cast.get? sampleActor.id).bind Actor.speech =
      some ⟨"round", some 2.5, default⟩ := by
    rcases Option.map_eq_some_iff.1 turned with ⟨actor, found, _⟩
    have same : (ticks 3).cast.get? sampleActor.id = some (Action.effects _ _ actor) :=
      (followed 2).2.2.1.trans (congrArg (Option.map _) found)
    rw [same]
    rfl
  have past := (followed 4).2.2.2 (by decide +kernel)
  exact ⟨distinct, present, (followed 0).1.trans (by rfl), jumped, (followed 1).1.trans (by rfl),
    turned, (followed 2).1.trans (by rfl), moved, spoken, past.1, past.2.1⟩

end Sample

end SpriteStage
