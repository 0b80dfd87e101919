import SpriteStage.Proofs.Walk.Soundness
import SpriteStage.Proofs.Walk.Trace

namespace SpriteStage

/-!
# Which commands a walk executes

A walk executes the commands that it comes upon and that are not done.  They
are listed here with the blocks they stand in, in order.  That this is what
the walk does shows in its effect: it changes the cast and announces just what
these commands do one after the other, whatever the entries are.

A command at the top level of a program is special, since no loop starts it
over.  A walk executes it once if it is not done, not at all if it is, and in
either case leaves it done.
-/

namespace Walk

mutual

/-- The commands of a tree that a walk executes, with their blocks. -/
def executedNode (actor : ActorId) (now : Instant) : Block -> Walk -> List (BlockId × Action)
  | ⟨id, kind, _, _, children⟩, walk =>
    if walk.progress.isFinished actor id then []
    else
      match kind with
      | .motion command => [(id, .motion command)]
      | .look command => [(id, .look command)]
      | .control _ =>
        if due actor id kind walk ≤ (walk.progress.entryOf actor id kind).completed then []
        else executedForest actor now children (walk.opened actor id kind)

def executedForest (actor : ActorId) (now : Instant) : Forest -> Walk -> List (BlockId × Action)
  | [], _ => []
  | node :: rest, walk =>
    executedNode actor now node walk ++
      executedForest actor now rest (stepNode actor now node walk)

end

variable {actor : ActorId} {now : Instant} {walk : Walk} {id block : BlockId} {kind : Kind}
  {owner : ActorId} {parent : Option BlockId} {children : Forest}

@[simp] theorem executedForest_nil (walk : Walk) : executedForest actor now [] walk = [] := rfl

@[simp] theorem executedForest_cons (node : Block) (rest : Forest) (walk : Walk) :
    executedForest actor now (node :: rest) walk =
      executedNode actor now node walk ++
        executedForest actor now rest (stepNode actor now node walk) := rfl

theorem executedNode_of_finished (finished : walk.progress.isFinished actor id = true) :
    executedNode actor now ⟨id, kind, owner, parent, children⟩ walk = [] := by
  cases kind <;> rw [executedNode, if_pos finished]

theorem executedNode_motion {command : Motion}
    (unfinished : ¬ walk.progress.isFinished actor id = true) :
    executedNode actor now ⟨id, .motion command, owner, parent, children⟩ walk =
      [(id, .motion command)] := by
  rw [executedNode, if_neg unfinished]

theorem executedNode_look {command : Look}
    (unfinished : ¬ walk.progress.isFinished actor id = true) :
    executedNode actor now ⟨id, .look command, owner, parent, children⟩ walk =
      [(id, .look command)] := by
  rw [executedNode, if_neg unfinished]

theorem executedNode_control_complete {command : Control}
    (unfinished : ¬ walk.progress.isFinished actor id = true)
    (complete : due actor id (.control command) walk ≤
      (walk.progress.entryOf actor id (.control command)).completed) :
    executedNode actor now ⟨id, .control command, owner, parent, children⟩ walk = [] := by
  rw [executedNode, if_neg unfinished]
  exact if_pos complete

theorem executedNode_control_round {command : Control}
    (unfinished : ¬ walk.progress.isFinished actor id = true)
    (pending : ¬ due actor id (.control command) walk ≤
      (walk.progress.entryOf actor id (.control command)).completed) :
    executedNode actor now ⟨id, .control command, owner, parent, children⟩ walk =
      executedForest actor now children (walk.opened actor id (.control command)) := by
  rw [executedNode, if_neg unfinished]
  exact if_neg pending

/-- A walk carries out the commands that it executes, and nothing else. -/
theorem carries_executed (forest : Forest) :
    forall walk : Walk, Carries actor now ((executedForest actor now forest walk).map Prod.snd)
      walk (stepForest actor now forest walk) := by
  induction forest using Forest.induction with
  | nil => exact fun _ => Carries.none rfl rfl
  | cons id kind owner parent children rest below after =>
    intro walk
    rw [executedForest_cons, stepForest_cons, List.map_append]
    apply Carries.append _ (after _)
    by_cases finished : walk.progress.isFinished actor id = true
    · rw [executedNode_of_finished finished, stepNode_of_finished finished]
      exact Carries.none rfl rfl
    · cases kind with
      | motion command =>
        rw [executedNode_motion finished, stepNode_motion finished]
        exact (Carries.move walk command).withProgress _
      | look command =>
        rw [executedNode_look finished, stepNode_look finished]
        exact (Carries.look walk command).withProgress _
      | control command =>
        by_cases complete : due actor id (.control command) walk ≤
            (walk.progress.entryOf actor id (.control command)).completed
        · rw [executedNode_control_complete finished complete,
            stepNode_control_complete finished complete]
          exact Carries.none rfl rfl
        · have inside := below (walk.opened actor id (.control command))
          have entered : Carries actor now
              ((executedForest actor now children (walk.opened actor id (.control command))).map
                Prod.snd) walk
              (stepForest actor now children (walk.opened actor id (.control command))) :=
            ⟨inside.cast, inside.events⟩
          rw [executedNode_control_round finished complete,
            stepNode_control_round finished complete]
          dsimp only
          split
          · unfold closeRound
            dsimp only
            split <;> exact entered.withProgress _
          · exact entered

/-- A walk executes commands of its forest only. -/
theorem mem_ids_of_mem_executed (forest : Forest) :
    forall walk : Walk, block ∈ (executedForest actor now forest walk).map Prod.fst ->
      block ∈ Forest.ids forest := by
  induction forest using Forest.induction with
  | nil => exact fun _ member => member
  | cons id kind owner parent children rest below after =>
    intro walk member
    rw [executedForest_cons, List.map_append, List.mem_append] at member
    rw [Forest.ids_cons, List.mem_cons, List.mem_append]
    rcases member with own | later
    · by_cases finished : walk.progress.isFinished actor id = true
      · rw [executedNode_of_finished finished] at own
        exact absurd own List.not_mem_nil
      · cases kind with
        | motion command =>
          rw [executedNode_motion finished] at own
          exact Or.inl (List.mem_singleton.1 own)
        | look command =>
          rw [executedNode_look finished] at own
          exact Or.inl (List.mem_singleton.1 own)
        | control command =>
          by_cases complete : due actor id (.control command) walk ≤
              (walk.progress.entryOf actor id (.control command)).completed
          · rw [executedNode_control_complete finished complete] at own
            exact absurd own List.not_mem_nil
          · rw [executedNode_control_round finished complete] at own
            exact Or.inr (Or.inl (below _ own))
    · exact Or.inr (Or.inr (after _ later))

/-- How often some executed commands stand in a block. -/
def timesIn (block : BlockId) (executed : List (BlockId × Action)) : Nat :=
  (executed.map Prod.fst).count block

theorem timesIn_append (block : BlockId) (first second : List (BlockId × Action)) :
    timesIn block (first ++ second) = timesIn block first + timesIn block second := by
  rw [timesIn, List.map_append, List.count_append, timesIn, timesIn]

theorem timesIn_executed_of_notMem {forest : Forest} (walk : Walk)
    (absent : block ∉ Forest.ids forest) :
    timesIn block (executedForest actor now forest walk) = 0 :=
  List.count_eq_zero_of_not_mem fun member => absent (mem_ids_of_mem_executed forest walk member)

theorem isFinished_stepForest_of_notMem {forest : Forest} {other : ActorId} (walk : Walk)
    (outside : other ≠ actor ∨ block ∉ Forest.ids forest) :
    (stepForest actor now forest walk).progress.isFinished other block =
      walk.progress.isFinished other block := by
  rw [Progress.isFinished, Progress.isFinished, get?_stepForest_of_notMem forest walk outside]

/-- A command that a walk comes upon is executed unless it is done, and is
done afterwards. -/
theorem command_executed {node : Block} (plain : node.kind.holdsBlocks = false) (walk : Walk) :
    timesIn node.id (executedNode actor now node walk) =
        (if walk.progress.isFinished actor node.id then 0 else 1) ∧
      (stepNode actor now node walk).progress.isFinished actor node.id = true := by
  rcases node with ⟨id, kind, owner, parent, children⟩
  by_cases finished : walk.progress.isFinished actor id = true
  · rw [executedNode_of_finished finished, stepNode_of_finished finished, if_pos finished]
    exact ⟨rfl, finished⟩
  · cases kind with
    | motion command =>
      rw [executedNode_motion finished, stepNode_motion finished, if_neg finished]
      exact ⟨List.count_singleton_self, isFinished_finish _ _ _ _⟩
    | look command =>
      rw [executedNode_look finished, stepNode_look finished, if_neg finished]
      exact ⟨List.count_singleton_self, isFinished_finish _ _ _ _⟩
    | control command => cases plain

/-- A walk executes a command of the top level once if it is not done, and
leaves it done. -/
theorem top_command_executed {node : Block} (plain : node.kind.holdsBlocks = false)
    {forest : Forest} (distinct : (Forest.ids forest).Nodup) (top : node ∈ forest) :
    forall walk : Walk,
      timesIn node.id (executedForest actor now forest walk) =
          (if walk.progress.isFinished actor node.id then 0 else 1) ∧
        (stepForest actor now forest walk).progress.isFinished actor node.id = true := by
  induction forest with
  | nil => exact absurd top List.not_mem_nil
  | cons first rest step =>
    intro walk
    have apart := Forest.nodup_ids_cons distinct
    rw [executedForest_cons, stepForest_cons, timesIn_append]
    rcases List.mem_cons.1 top with rfl | later
    · have own : timesIn node.id (executedNode actor now node walk) =
          (if walk.progress.isFinished actor node.id then 0 else 1) ∧ _ :=
        command_executed plain walk
      rw [own.1, timesIn_executed_of_notMem _ apart.2.1, Nat.add_zero,
        isFinished_stepForest_of_notMem _ (Or.inr apart.2.1)]
      exact ⟨rfl, own.2⟩
    · have inRest : node.id ∈ Forest.ids rest := Forest.mem_ids_of_mem later
      -- the trees before the command share no block with it
      have notFirst : node.id ∉ Forest.ids [first] := fun inFirst =>
        Forest.notMem_ids_rest distinct inFirst inRest
      have skipped : timesIn node.id (executedNode actor now first walk) = 0 := by
        have alone : timesIn node.id (executedForest actor now [first] walk) = 0 :=
          timesIn_executed_of_notMem walk notFirst
        rwa [executedForest_cons, executedForest_nil, List.append_nil] at alone
      have kept : (stepNode actor now first walk).progress.isFinished actor node.id =
          walk.progress.isFinished actor node.id :=
        isFinished_stepForest_of_notMem walk (Or.inr notFirst)
      have rest := step apart.2.2.2.1 later (stepNode actor now first walk)
      rw [skipped, Nat.zero_add, rest.1, kept]
      exact ⟨rfl, rest.2⟩

end Walk

end SpriteStage
