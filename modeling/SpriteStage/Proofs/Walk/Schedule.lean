import SpriteStage.Walk
import SpriteStage.Proofs.Block.Nodes

namespace SpriteStage

/-!
# What a program does, tick by tick

A schedule lists for each tick the actions that take effect in it.  The
schedule of a program is found from the program alone: a command takes one
tick, blocks in sequence run side by side, and a block that repeats its body
does all ticks of the body once for each round.  A round takes at least one
tick, also when the body has nothing to do.
-/

/-- What a block does that takes effect at once. -/
inductive Action where
  | motion (command : Motion)
  | look (command : Look)
  deriving DecidableEq

/-- The actions of each tick, in the order in which they take effect. -/
abbrev Schedule := List (List Action)

namespace Schedule

/-- Two schedules side by side.  In a tick of both, the first one goes first. -/
def beside : Schedule -> Schedule -> Schedule
  | [], second => second
  | first :: rest, [] => first :: rest
  | tick :: first, other :: second => (tick ++ other) :: beside first second

/-- The schedule of a round: the body, or one tick without actions. -/
def round : Schedule -> Schedule
  | [] => [[]]
  | tick :: rest => tick :: rest

def rounds (count : Nat) (body : Schedule) : Schedule := (List.replicate count body.round).flatten

/-- The actions of a tick; past the end there are none. -/
def tick (schedule : Schedule) (index : Nat) : List Action := schedule.getD index []

@[simp] theorem nil_beside (second : Schedule) : beside [] second = second := by
  cases second <;> rfl

@[simp] theorem beside_nil (first : Schedule) : beside first [] = first := by
  cases first <;> rfl

theorem tick_beside (first second : Schedule) (index : Nat) :
    (beside first second).tick index = first.tick index ++ second.tick index := by
  induction first, second using beside.induct generalizing index with
  | case1 second => simp [tick]
  | case2 first rest => simp [tick]
  | case3 own first other second step =>
    rw [beside]
    cases index with
    | zero => rfl
    | succ index => exact step index

theorem tail_beside (first second : Schedule) :
    (beside first second).tail = beside first.tail second.tail := by
  cases first <;> cases second <;> simp [beside]

theorem beside_eq_nil_iff {first second : Schedule} :
    beside first second = [] <-> first = [] ∧ second = [] := by
  cases first <;> cases second <;> simp [beside]

theorem round_ne_nil (body : Schedule) : body.round ≠ [] := by
  cases body <;> exact List.cons_ne_nil _ _

theorem rounds_succ (count : Nat) (body : Schedule) :
    rounds (count + 1) body = body.round ++ rounds count body := by
  rw [rounds, List.replicate_succ, List.flatten_cons, rounds]

@[simp] theorem tick_zero_round (body : Schedule) : body.round.tick 0 = body.tick 0 := by
  cases body <;> rfl

theorem tail_round_of_tail_eq_nil {body : Schedule} (short : body.tail = []) :
    body.round.tail = [] := by
  cases body with
  | nil => rfl
  | cons tick rest => exact short

theorem tail_round_of_tail_ne_nil {body : Schedule} (long : body.tail ≠ []) :
    body.round.tail = round body.tail := by
  cases body with
  | nil => exact absurd rfl long
  | cons tick rest =>
    cases rest with
    | nil => exact absurd rfl long
    | cons next rest => rfl

theorem tick_drop (schedule : Schedule) (count index : Nat) :
    tick (schedule.drop count) index = schedule.tick (count + index) := by
  simp [tick, List.getD_eq_getElem?_getD]

theorem tick_zero_append {first : Schedule} (second : Schedule) (some : first ≠ []) :
    tick (first ++ second) 0 = first.tick 0 := by
  cases first with
  | nil => exact absurd rfl some
  | cons tick rest => rfl

end Schedule

/-- How many rounds a repeated body is due: its count, kept between one and the
largest 32-bit word. -/
def Control.total : Control -> Nat
  | .times count => (max 1 (min count.toInt 4294967295)).toNat

/-- A run counts the rounds that are due. -/
theorem Control.rounds_eq_total (control : Control) : control.rounds = control.total := by
  cases control
  simp only [rounds, maxRounds, total]
  omega

mutual

/-- The schedule of a block.  What lies below a command takes no part. -/
def Block.schedule : Block -> Schedule
  | ⟨_, kind, _, _, children⟩ =>
    match kind with
    | .motion command => [[.motion command]]
    | .look command => [[.look command]]
    | .control command => (Forest.schedule children).rounds command.total

/-- The schedule of blocks in sequence, which run side by side. -/
def Forest.schedule : Forest -> Schedule
  | [] => []
  | node :: rest => node.schedule.beside (Forest.schedule rest)

end

namespace Forest

@[simp] theorem schedule_cons (node : Block) (rest : Forest) :
    schedule (node :: rest) = node.schedule.beside (schedule rest) := rfl

/-- In each tick the blocks of a sequence take effect in their order. -/
theorem tick_schedule (forest : Forest) (index : Nat) :
    (schedule forest).tick index = forest.flatMap fun node => node.schedule.tick index := by
  induction forest with
  | nil => rfl
  | cons node rest step => rw [schedule_cons, Schedule.tick_beside, step, List.flatMap_cons]

end Forest

mutual

/-- What is left of the schedule of a block, by the entries of a run.  The
round that has begun is finished first; the ones due after it are whole. -/
def Block.remaining (progress : Progress) (actor : ActorId) : Block -> Schedule
  | ⟨id, kind, _, _, children⟩ =>
    let entry := progress.entryOf actor id kind
    if entry.finished then []
    else
      match kind with
      | .motion command => [[.motion command]]
      | .look command => [[.look command]]
      | .control _ =>
        if entry.target.getD 1 ≤ entry.completed then [[]]
        else
          (Forest.remaining progress actor children).round ++
            (Forest.schedule children).rounds (entry.target.getD 1 - entry.completed - 1)

def Forest.remaining (progress : Progress) (actor : ActorId) : Forest -> Schedule
  | [] => []
  | node :: rest =>
    (node.remaining progress actor).beside (Forest.remaining progress actor rest)

end

end SpriteStage
