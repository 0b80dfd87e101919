import Mathlib.Algebra.BigOperators.Group.List.Basic
import SpriteStage.Proofs.Walk.Execution

namespace SpriteStage

/-!
# How often a command is executed

A command stands inside some loops, and it is executed once for each round of
all of them together.  The table of a run does not say so, but it tells how
often a command is still owed: in what is left of the rounds that have begun,
and in the rounds due after them.  A walk pays what it executes.  What has been
executed and what is owed is therefore always the same in total, and when a
program is done nothing is owed.

What lies below a command is never owed, and no command is executed twice in
one walk.
-/

mutual

/-- How often a block is executed until a tree is done. -/
def Block.tally (wanted : BlockId) : Block -> Nat
  | ⟨id, kind, _, _, children⟩ =>
    match kind with
    | .motion _ | .look _ => if id = wanted then 1 else 0
    | .control command => command.total * Forest.tally wanted children

def Forest.tally (wanted : BlockId) : Forest -> Nat
  | [] => 0
  | node :: rest => node.tally wanted + Forest.tally wanted rest

end

mutual

/-- How often a block is still to be executed in a tree, by the entries of a
run. -/
def Block.owed (progress : Progress) (actor : ActorId) (wanted : BlockId) : Block -> Nat
  | ⟨id, kind, _, _, children⟩ =>
    let entry := progress.entryOf actor id kind
    if entry.finished then 0
    else
      match kind with
      | .motion _ | .look _ => if id = wanted then 1 else 0
      | .control _ =>
        if entry.target.getD 1 ≤ entry.completed then 0
        else
          Forest.owed progress actor wanted children +
            (entry.target.getD 1 - entry.completed - 1) * Forest.tally wanted children

def Forest.owed (progress : Progress) (actor : ActorId) (wanted : BlockId) : Forest -> Nat
  | [] => 0
  | node :: rest => node.owed progress actor wanted + Forest.owed progress actor wanted rest

end

/-- Whether a block stands in a forest inside some loops and inside nothing
else.  The outermost loop comes first. -/
inductive Forest.Looped (node : Block) : List Control -> Forest -> Prop
  | top {forest : Forest} (member : node ∈ forest) : Looped node [] forest
  | inside {loops : List Control} {forest : Forest} {command : Control} {id : BlockId}
      {owner : ActorId} {parent : Option BlockId} {children : Forest}
      (member : ⟨id, .control command, owner, parent, children⟩ ∈ forest)
      (below : Looped node loops children) : Looped node (command :: loops) forest

theorem Block.tally_of_plain {wanted : BlockId} {node : Block}
    (plain : node.kind.holdsBlocks = false) :
    node.tally wanted = if node.id = wanted then 1 else 0 := by
  rcases node with ⟨id, kind, owner, parent, children⟩
  cases kind with
  | motion command => rfl
  | look command => rfl
  | control command => cases plain

theorem Block.tally_eq_zero {wanted : BlockId} {node : Block} (different : node.id ≠ wanted)
    (below : Forest.tally wanted node.children = 0) : node.tally wanted = 0 := by
  rcases node with ⟨id, kind, owner, parent, children⟩
  cases kind with
  | motion command => exact if_neg different
  | look command => exact if_neg different
  | control command =>
    rw [Block.tally]
    exact (congrArg _ below).trans (Nat.mul_zero _)

namespace Forest

variable {actor : ActorId} {wanted : BlockId} {first second progress : Progress} {node : Block}
  {forest rest : Forest} {loops : List Control}

@[simp] theorem tally_cons (wanted : BlockId) (node : Block) (rest : Forest) :
    tally wanted (node :: rest) = node.tally wanted + tally wanted rest := rfl

@[simp] theorem owed_cons (progress : Progress) (actor : ActorId) (wanted : BlockId)
    (node : Block) (rest : Forest) :
    owed progress actor wanted (node :: rest) =
      node.owed progress actor wanted + owed progress actor wanted rest := rfl

theorem owed_singleton (progress : Progress) (actor : ActorId) (wanted : BlockId) (node : Block) :
    owed progress actor wanted [node] = node.owed progress actor wanted := Nat.add_zero _

/-! ## Where a command stands -/

theorem Looped.mem_nodes (looped : Looped node loops forest) : node ∈ nodes forest := by
  induction looped with
  | top member => exact mem_nodes_of_mem member
  | inside member below step =>
    apply nodes_subset (mem_nodes_of_mem member)
    rw [nodes_cons]
    exact List.mem_cons_of_mem _ (List.mem_append_left _ step)

theorem Looped.cons {first : Block} (looped : Looped node loops rest) :
    Looped node loops (first :: rest) := by
  cases looped with
  | top member => exact .top (List.mem_cons_of_mem first member)
  | inside member below => exact .inside (List.mem_cons_of_mem first member) below

/-- Every block stands inside loops only, or below a command. -/
theorem looped_or_below (member : node ∈ nodes forest) :
    (Exists fun loops => Looped node loops forest) ∨
      Exists fun above => above ∈ nodes forest ∧ above.kind.holdsBlocks = false ∧
        node ∈ nodes above.children := by
  induction forest using Forest.induction with
  | nil => exact absurd member List.not_mem_nil
  | cons id kind owner parent children rest below after =>
    rw [nodes_cons, List.mem_cons, List.mem_append] at member
    rcases member with rfl | inChildren | inRest
    · exact Or.inl ⟨[], .top List.mem_cons_self⟩
    · by_cases holds : kind.holdsBlocks = true
      · rcases below inChildren with ⟨loops, looped⟩ | ⟨above, listed, plain, under⟩
        · cases kind with
          | control command => exact Or.inl ⟨command :: loops, .inside List.mem_cons_self looped⟩
          | motion command => cases holds
          | look command => cases holds
        · refine Or.inr ⟨above, ?_, plain, under⟩
          rw [nodes_cons]
          exact List.mem_cons_of_mem _ (List.mem_append_left _ listed)
      · refine Or.inr ⟨_, ?_, Bool.eq_false_iff.2 holds, inChildren⟩
        rw [nodes_cons]
        exact List.mem_cons_self
    · rcases after inRest with ⟨loops, looped⟩ | ⟨above, listed, plain, under⟩
      · exact Or.inl ⟨loops, looped.cons⟩
      · refine Or.inr ⟨above, ?_, plain, under⟩
        rw [nodes_cons]
        exact List.mem_cons_of_mem _ (List.mem_append_right _ listed)

theorem ids_sublist_of_mem {tree : Block} (member : tree ∈ forest) :
    tree.ids.Sublist (ids forest) := by
  induction forest with
  | nil => exact absurd member List.not_mem_nil
  | cons first rest step =>
    rw [ids]
    rcases List.mem_cons.1 member with rfl | later
    · exact List.sublist_append_left _ _
    · exact (step later).trans (List.sublist_append_right _ _)

/-! ## What a whole run executes -/

theorem tally_of_notMem (absent : wanted ∉ ids forest) : tally wanted forest = 0 := by
  induction forest using Forest.induction with
  | nil => rfl
  | cons id kind owner parent children rest below after =>
    simp only [ids_cons, List.mem_cons, List.mem_append, not_or] at absent
    rcases absent with ⟨notRoot, notChildren, notRest⟩
    rw [tally_cons, after notRest, Nat.add_zero,
      Block.tally_eq_zero (Ne.symm notRoot) (below notChildren)]

/-- A block is executed in its own tree only. -/
theorem tally_of_mem (distinct : (ids forest).Nodup) {tree : Block} (member : tree ∈ forest)
    (inTree : wanted ∈ tree.ids) : tally wanted forest = tree.tally wanted := by
  induction forest with
  | nil => exact absurd member List.not_mem_nil
  | cons first rest step =>
    rw [tally_cons]
    rcases List.mem_cons.1 member with rfl | later
    · have notInRest : wanted ∉ ids rest :=
        notMem_ids_rest distinct (Block.ids_eq_forest tree ▸ inTree)
      rw [tally_of_notMem notInRest, Nat.add_zero]
    · have inRest : wanted ∈ ids rest := (ids_sublist_of_mem later).subset inTree
      have notFirst : wanted ∉ ids [first] := fun inFirst =>
        notMem_ids_rest distinct inFirst inRest
      have skipped : first.tally wanted = 0 := tally_of_notMem notFirst
      rw [skipped, Nat.zero_add, step (nodup_ids_cons distinct).2.2.2.1 later]

/-- A command is executed once for each round of all loops around it. -/
theorem tally_of_looped (plain : node.kind.holdsBlocks = false)
    (looped : Looped node loops forest) :
    (ids forest).Nodup -> tally node.id forest = (loops.map Control.total).prod := by
  induction looped with
  | top member =>
    intro distinct
    have own : node.id ∈ node.ids := by
      rw [Block.ids_eq]
      exact List.mem_cons_self
    rw [tally_of_mem distinct member own, Block.tally_of_plain plain, if_pos rfl]
    rfl
  | @inside loops forest command id owner parent children member below step =>
    intro distinct
    have treeDistinct := (ids_sublist_of_mem member).nodup distinct
    rw [Block.ids_eq, List.nodup_cons] at treeDistinct
    have inTree : node.id ∈ Block.ids ⟨id, .control command, owner, parent, children⟩ := by
      rw [Block.ids_eq, ids_eq_map]
      exact List.mem_cons_of_mem _ (List.mem_map_of_mem below.mem_nodes)
    rw [tally_of_mem distinct member inTree, Block.tally, step treeDistinct.2, List.map_cons,
      List.prod_cons]

/-- What lies below a command is not executed. -/
theorem tally_of_below (distinct : (ids forest).Nodup) {above : Block}
    (member : above ∈ nodes forest) (plain : above.kind.holdsBlocks = false)
    (under : node ∈ nodes above.children) : tally node.id forest = 0 := by
  have listed : forall {trees : Forest}, node ∈ nodes trees -> node.id ∈ ids trees := by
    intro trees found
    rw [ids_eq_map]
    exact List.mem_map_of_mem found
  induction forest using Forest.induction with
  | nil => exact absurd member List.not_mem_nil
  | cons id kind owner parent children rest below after =>
    have apart := nodup_ids_cons distinct
    rw [nodes_cons, List.mem_cons, List.mem_append] at member
    have inside : forall {trees : Forest}, above ∈ nodes trees -> node.id ∈ ids trees := by
      intro trees found
      apply listed
      apply nodes_subset found
      rw [nodes_cons]
      exact List.mem_cons_of_mem _ (List.mem_append_left _ under)
    rw [tally_cons]
    rcases member with rfl | inChildren | inRest
    · have notRoot : id ≠ node.id := fun same => apart.1 (same ▸ listed under)
      rw [tally_of_notMem (apart.2.2.2.2 _ (listed under)), Block.tally_of_plain plain,
        if_neg notRoot]
    · have notRoot : id ≠ node.id := fun same => apart.1 (same ▸ inside inChildren)
      rw [tally_of_notMem (apart.2.2.2.2 _ (inside inChildren)), Nat.add_zero,
        Block.tally_eq_zero notRoot (below apart.2.2.1 inChildren)]
    · have notFirst : node.id ∉ ids [⟨id, kind, owner, parent, children⟩] := fun inFirst =>
        notMem_ids_rest distinct inFirst (inside inRest)
      have skipped : Block.tally node.id ⟨id, kind, owner, parent, children⟩ = 0 :=
        tally_of_notMem notFirst
      rw [skipped, Nat.zero_add, after apart.2.2.2.1 inRest]

/-! ## What is owed -/

/-- What is owed depends only on the entries of the blocks of the forest. -/
theorem owed_congr
    (same : forall id, id ∈ ids forest -> first.get? actor id = second.get? actor id) :
    owed first actor wanted forest = owed second actor wanted forest := by
  induction forest using Forest.induction with
  | nil => rfl
  | cons id kind owner parent children rest below after =>
    simp only [ids_cons, List.mem_cons, List.mem_append] at same
    have sameEntry : first.entryOf actor id kind = second.entryOf actor id kind :=
      Progress.entryOf_congr (same id (Or.inl rfl))
    rw [owed_cons, owed_cons, Block.owed.eq_def, Block.owed.eq_def]
    dsimp only
    rw [sameEntry, below fun block member => same block (Or.inr (Or.inl member)),
      after fun block member => same block (Or.inr (Or.inr member))]

/-- Before a program has started, all that it ever executes is owed. -/
theorem owed_of_unstarted
    (unstarted : forall node, node ∈ nodes forest ->
      progress.entryOf actor node.id node.kind = Entry.fresh node.kind) :
    owed progress actor wanted forest = tally wanted forest := by
  induction forest using Forest.induction with
  | nil => rfl
  | cons id kind owner parent children rest below after =>
    simp only [nodes_cons, List.mem_cons, List.mem_append] at unstarted
    have own : progress.entryOf actor id kind = Entry.fresh kind := unstarted _ (Or.inl rfl)
    rw [owed_cons, tally_cons, after fun node member => unstarted node (Or.inr (Or.inr member))]
    congr 1
    cases kind with
    | motion command => rw [Block.owed, own]; rfl
    | look command => rw [Block.owed, own]; rfl
    | control command =>
      rw [Block.owed, Block.tally, own,
        below fun node member => unstarted node (Or.inr (Or.inl member))]
      rcases Nat.exists_eq_add_of_le' command.one_le_rounds with ⟨count, total⟩
      simp only [Entry.fresh, Kind.rounds?, ← Control.rounds_eq_total, total, Option.getD_some,
        Bool.false_eq_true, if_false, Nat.le_zero_eq, Nat.add_one_ne_zero, Nat.sub_zero,
        Nat.add_sub_cancel, Nat.succ_mul]
      exact Nat.add_comm _ _

theorem owed_seed (distinct : (ids forest).Nodup) (progress : Progress) (actor : ActorId) :
    owed (progress.seed actor forest) actor wanted forest = tally wanted forest := by
  apply owed_of_unstarted
  intro node member
  apply Progress.entryOf_of_some
  exact Progress.get?_seed_of_mem forest progress distinct (List.mem_map_of_mem member)

end Forest

namespace Block

variable {progress : Progress} {actor : ActorId} {wanted id : BlockId} {kind : Kind}
  {owner : ActorId} {parent : Option BlockId} {children : Forest}

theorem owed_of_finished (finished : progress.isFinished actor id = true) :
    owed progress actor wanted ⟨id, kind, owner, parent, children⟩ = 0 := by
  rw [Progress.isFinished_eq_entryOf _ actor id kind] at finished
  rw [owed.eq_def]
  exact if_pos finished

theorem owed_of_plain (plain : kind.holdsBlocks = false)
    (unfinished : ¬ progress.isFinished actor id = true) :
    owed progress actor wanted ⟨id, kind, owner, parent, children⟩ =
      if id = wanted then 1 else 0 := by
  rw [Progress.isFinished_eq_entryOf _ actor id kind] at unfinished
  rw [owed.eq_def]
  refine (if_neg unfinished).trans ?_
  cases kind with
  | motion command => rfl
  | look command => rfl
  | control command => cases plain

theorem owed_complete {command : Control} (unfinished : ¬ progress.isFinished actor id = true)
    (complete : (progress.entryOf actor id (.control command)).target.getD 1 ≤
      (progress.entryOf actor id (.control command)).completed) :
    owed progress actor wanted ⟨id, .control command, owner, parent, children⟩ = 0 := by
  rw [Progress.isFinished_eq_entryOf _ actor id (.control command)] at unfinished
  rw [owed.eq_def]
  exact (if_neg unfinished).trans (if_pos complete)

theorem owed_of_pending {entry : Entry} {command : Control}
    (found : progress.entryOf actor id (.control command) = entry)
    (unfinished : entry.finished = false)
    (pending : ¬ entry.target.getD 1 ≤ entry.completed) :
    owed progress actor wanted ⟨id, .control command, owner, parent, children⟩ =
      Forest.owed progress actor wanted children +
        (entry.target.getD 1 - entry.completed - 1) * Forest.tally wanted children := by
  rw [owed.eq_def]
  dsimp only
  rw [found, if_neg (Bool.eq_false_iff.1 unfinished), if_neg pending]

end Block

namespace Walk

variable {actor : ActorId} {now : Instant} {wanted id : BlockId} {kind : Kind}
  {owner : ActorId} {parent : Option BlockId} {children : Forest} {walk : Walk}

/-! ## A walk pays what it executes -/

theorem timesIn_singleton (wanted id : BlockId) (action : Action) :
    timesIn wanted [(id, action)] = if id = wanted then 1 else 0 := by
  rw [timesIn, List.map_singleton, List.count_singleton]
  simp only [beq_iff_eq]

theorem owed_of_allFinished {forest : Forest} (done : walk.allFinished actor forest = true) :
    Forest.owed walk.progress actor wanted forest = 0 := by
  rw [allFinished, List.all_eq_true] at done
  induction forest with
  | nil => rfl
  | cons node rest step =>
    rw [List.forall_mem_cons] at done
    rcases node with ⟨id, kind, owner, parent, children⟩
    rw [Forest.owed_cons, Block.owed_of_finished done.1, step done.2]

/-- After a round whose body is done, the rounds due after it are owed. -/
theorem owed_closeRound {command : Control} {entry : Entry}
    (apart : id ∉ Forest.ids children) (distinct : (Forest.ids children).Nodup)
    (found : walk.progress.get? actor id = some entry) (unfinished : entry.finished = false) :
    Block.owed (walk.closeRound actor id (.control command) (entry.target.getD 1)
        children).progress actor wanted ⟨id, .control command, owner, parent, children⟩ =
      (entry.target.getD 1 - entry.completed - 1) * Forest.tally wanted children := by
  have entryIs : walk.progress.entryOf actor id (.control command) = entry :=
    Progress.entryOf_of_some found
  unfold closeRound Progress.completeRound
  simp only [entryIs]
  split
  · rename_i last
    have none : entry.target.getD 1 - entry.completed - 1 = 0 := by omega
    rw [none, Nat.zero_mul]
    exact Block.owed_of_finished (isFinished_finish ⟨walk.cast, _, walk.events⟩ _ _ _)
  · rename_i more
    have counted : ((walk.progress.put actor id
        { entry with completed := entry.completed + 1 }).seed actor children).get? actor id =
          some { entry with completed := entry.completed + 1 } := by
      rw [Progress.get?_seed_of_notMem _ _ (Or.inr apart), Progress.get?_put_self]
    have rounds : entry.target.getD 1 - entry.completed - 1 =
        1 + (entry.target.getD 1 - (entry.completed + 1) - 1) := by omega
    rw [Block.owed_of_pending (Progress.entryOf_of_some counted) unfinished more,
      Forest.owed_seed distinct, rounds, Nat.add_mul, Nat.one_mul]

/-- Whether walks through a forest pay what they execute: it is what was owed
before and is not owed afterwards. -/
def Pays (actor : ActorId) (now : Instant) (wanted : BlockId) (forest : Forest) : Prop :=
  forall walk : Walk,
    timesIn wanted (executedForest actor now forest walk) +
        Forest.owed (stepForest actor now forest walk).progress actor wanted forest =
      Forest.owed walk.progress actor wanted forest

theorem round_pays {command : Control} (apart : id ∉ Forest.ids children)
    (distinct : (Forest.ids children).Nodup) (below : Pays actor now wanted children)
    (started : ¬ walk.progress.isFinished actor id = true)
    (pending : ¬ due actor id (.control command) walk ≤
      (walk.progress.entryOf actor id (.control command)).completed) :
    let node : Block := ⟨id, .control command, owner, parent, children⟩
    timesIn wanted (executedNode actor now node walk) +
        node.owed (stepNode actor now node walk).progress actor wanted =
      node.owed walk.progress actor wanted := by
  intro node
  let inside := stepForest actor now children (walk.opened actor id (.control command))
  obtain ⟨entry, entryIs⟩ : Exists fun entry =>
      walk.progress.entryOf actor id (.control command) = entry := ⟨_, rfl⟩
  have dueIs : due actor id (.control command) walk = entry.target.getD 1 := by
    rw [due, entryIs]
  have unfinished : entry.finished = false := by
    rw [Progress.isFinished_eq_entryOf _ actor id (.control command), entryIs] at started
    exact Bool.eq_false_iff.2 started
  have own : inside.progress.get? actor id = some entry := by
    rw [← entryIs]
    exact get?_inside apart walk
  have paid := below (walk.opened actor id (.control command))
  have openedKept : Forest.owed (walk.opened actor id (.control command)).progress actor wanted
      children = Forest.owed walk.progress actor wanted children := by
    apply Forest.owed_congr
    intro block member
    exact Progress.get?_ensure_of_ne _ _ (Or.inr fun same => apart (same ▸ member))
  rw [openedKept] at paid
  rw [executedNode_control_round started pending, stepNode_control_round started pending]
  rw [dueIs, entryIs] at pending
  rw [Block.owed_of_pending entryIs unfinished pending, ← paid, dueIs, Nat.add_assoc]
  dsimp only
  congr 1
  by_cases done : inside.allFinished actor children = true
  · rw [if_pos done, owed_closeRound apart distinct own unfinished, owed_of_allFinished done,
      Nat.zero_add]
  · rw [if_neg done, Block.owed_of_pending (Progress.entryOf_of_some own) unfinished pending]

theorem stepNode_pays (apart : id ∉ Forest.ids children)
    (distinct : (Forest.ids children).Nodup) (below : Pays actor now wanted children)
    (walk : Walk) :
    let node : Block := ⟨id, kind, owner, parent, children⟩
    timesIn wanted (executedNode actor now node walk) +
        node.owed (stepNode actor now node walk).progress actor wanted =
      node.owed walk.progress actor wanted := by
  intro node
  by_cases finished : walk.progress.isFinished actor id = true
  · rw [executedNode_of_finished finished, stepNode_of_finished finished]
    exact Nat.zero_add _
  · cases kind with
    | motion command =>
      rw [executedNode_motion finished, stepNode_motion finished, timesIn_singleton,
        Block.owed_of_finished (isFinished_finish _ _ _ _), Block.owed_of_plain rfl finished]
      rfl
    | look command =>
      rw [executedNode_look finished, stepNode_look finished, timesIn_singleton,
        Block.owed_of_finished (isFinished_finish _ _ _ _), Block.owed_of_plain rfl finished]
      rfl
    | control command =>
      by_cases complete : due actor id (.control command) walk ≤
          (walk.progress.entryOf actor id (.control command)).completed
      · rw [executedNode_control_complete finished complete,
          stepNode_control_complete finished complete,
          Block.owed_of_finished (isFinished_finish _ _ _ _),
          Block.owed_complete finished complete]
        rfl
      · exact round_pays apart distinct below finished complete

/-- Every walk pays what it executes. -/
theorem stepForest_pays (actor : ActorId) (now : Instant) (wanted : BlockId) {forest : Forest}
    (distinct : (Forest.ids forest).Nodup) : Pays actor now wanted forest := by
  induction forest using Forest.induction with
  | nil => exact fun _ => rfl
  | cons id kind owner parent children rest below after =>
    intro walk
    let node : Block := ⟨id, kind, owner, parent, children⟩
    let middle := stepNode actor now node walk
    have apart := Forest.nodup_ids_cons distinct
    have first : timesIn wanted (executedNode actor now node walk) +
        node.owed middle.progress actor wanted = node.owed walk.progress actor wanted :=
      stepNode_pays apart.1 apart.2.2.1 (below apart.2.2.1) walk
    have later := after apart.2.2.2.1 middle
    -- neither walk touches what the other one owes
    have restKept : Forest.owed middle.progress actor wanted rest =
        Forest.owed walk.progress actor wanted rest := by
      apply Forest.owed_congr
      exact fun block member => get?_stepNode_of_mem_rest distinct walk member
    have nodeKept : node.owed (stepForest actor now rest middle).progress actor wanted =
        node.owed middle.progress actor wanted := by
      rw [← Forest.owed_singleton, ← Forest.owed_singleton]
      apply Forest.owed_congr
      exact fun block member => get?_stepForest_of_mem_first distinct middle member
    rw [executedForest_cons, stepForest_cons, timesIn_append, Forest.owed_cons, Forest.owed_cons]
    change timesIn wanted (executedNode actor now node walk) +
        timesIn wanted (executedForest actor now rest middle) +
        (node.owed (stepForest actor now rest middle).progress actor wanted +
          Forest.owed (stepForest actor now rest middle).progress actor wanted rest) =
      node.owed walk.progress actor wanted + Forest.owed walk.progress actor wanted rest
    omega

/-- A walk comes upon every block at most once, in the order of the program. -/
theorem executed_sublist (forest : Forest) :
    forall walk : Walk,
      ((executedForest actor now forest walk).map Prod.fst).Sublist (Forest.ids forest) := by
  induction forest using Forest.induction with
  | nil => exact fun _ => List.Sublist.refl _
  | cons id kind owner parent children rest below after =>
    intro walk
    rw [executedForest_cons, List.map_append, Forest.ids_cons, ← List.cons_append]
    refine List.Sublist.append ?_ (after _)
    by_cases finished : walk.progress.isFinished actor id = true
    · rw [executedNode_of_finished finished]
      exact List.nil_sublist _
    · cases kind with
      | motion command =>
        rw [executedNode_motion finished]
        exact List.singleton_sublist.2 List.mem_cons_self
      | look command =>
        rw [executedNode_look finished]
        exact List.singleton_sublist.2 List.mem_cons_self
      | control command =>
        by_cases complete : due actor id (.control command) walk ≤
            (walk.progress.entryOf actor id (.control command)).completed
        · rw [executedNode_control_complete finished complete]
          exact List.nil_sublist _
        · rw [executedNode_control_round finished complete]
          exact (below _).cons id

/-- A walk executes no command that was done before it. -/
theorem isFinished_of_executed {forest : Forest} (distinct : (Forest.ids forest).Nodup)
    {block : BlockId} :
    forall walk : Walk, block ∈ (executedForest actor now forest walk).map Prod.fst ->
      walk.progress.isFinished actor block = false := by
  induction forest using Forest.induction with
  | nil => exact fun _ member => absurd member List.not_mem_nil
  | cons id kind owner parent children rest below after =>
    intro walk member
    have apart := Forest.nodup_ids_cons distinct
    rw [executedForest_cons, List.map_append, List.mem_append] at member
    rcases member with own | later
    · by_cases finished : walk.progress.isFinished actor id = true
      · rw [executedNode_of_finished finished] at own
        exact absurd own List.not_mem_nil
      · cases kind with
        | motion command =>
          rw [executedNode_motion finished] at own
          rw [List.mem_singleton.1 own]
          exact Bool.eq_false_iff.2 finished
        | look command =>
          rw [executedNode_look finished] at own
          rw [List.mem_singleton.1 own]
          exact Bool.eq_false_iff.2 finished
        | control command =>
          by_cases complete : due actor id (.control command) walk ≤
              (walk.progress.entryOf actor id (.control command)).completed
          · rw [executedNode_control_complete finished complete] at own
            exact absurd own List.not_mem_nil
          · rw [executedNode_control_round finished complete] at own
            have inChildren := mem_ids_of_mem_executed children _ own
            have different : block ≠ id := fun same => apart.1 (same ▸ inChildren)
            have unfinished := below apart.2.2.1 _ own
            rwa [Progress.isFinished, opened, Progress.get?_ensure_of_ne _ _
              (Or.inr different)] at unfinished
    · have inRest := mem_ids_of_mem_executed rest _ later
      have notFirst : block ∉ Forest.ids [⟨id, kind, owner, parent, children⟩] := fun inFirst =>
        Forest.notMem_ids_rest distinct inFirst inRest
      have kept : (stepForest actor now _ walk).progress.isFinished actor block =
          walk.progress.isFinished actor block :=
        isFinished_stepForest_of_notMem walk (Or.inr notFirst)
      exact kept.symm.trans (after apart.2.2.2.1 _ later)

/-! ## A run of ticks -/

/-- The commands that are executed in a number of ticks, with their blocks. -/
def executedTicks (actor : ActorId) (clock : Nat -> Instant) (program : Forest) (cast : Cast)
    (progress : Progress) : Nat -> List (BlockId × Action)
  | 0 => []
  | count + 1 =>
    let before := ticks actor clock program cast progress count
    executedTicks actor clock program cast progress count ++
      executedForest actor (clock count) program ⟨before.cast, before.progress, []⟩

/-- What has been executed and what is owed is the same in total after any
number of ticks. -/
theorem executedTicks_add_owed {program : Forest} (distinct : (Forest.ids program).Nodup)
    (clock : Nat -> Instant) (cast : Cast) (progress : Progress) (wanted : BlockId) (count : Nat) :
    timesIn wanted (executedTicks actor clock program cast progress count) +
        Forest.owed (ticks actor clock program cast progress count).progress actor wanted program =
      Forest.owed progress actor wanted program := by
  induction count with
  | zero => exact Nat.zero_add _
  | succ count step =>
    have paid := stepForest_pays actor (clock count) wanted distinct
      ⟨(ticks actor clock program cast progress count).cast,
        (ticks actor clock program cast progress count).progress, []⟩
    rw [executedTicks, timesIn_append, Nat.add_assoc, ← step, ← paid]
    rfl

end Walk

end SpriteStage
