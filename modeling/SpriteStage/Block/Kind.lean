import SpriteStage.Block.Parameter
import SpriteStage.Refusal

namespace SpriteStage

/-!
# Block kinds

Programs are built from three families of blocks.  Motion and look blocks are
commands; a control block repeats the blocks inside it.  Each kind has its own
parameters, and the palette gives every kind starting values.
-/

inductive Motion where
  | move (steps : Float)
  | turn (degrees : Float)
  | goTo (x y : Float)
  deriving DecidableEq

inductive Control where
  /-- Run the blocks inside a number of times.  The count is kept as entered. -/
  | times (count : Int64)
  deriving DecidableEq

inductive Look where
  /-- Show a message until the next one. -/
  | say (message : String)
  /-- Show a message for a while. -/
  | sayFor (message : String) (seconds : Float)
  deriving DecidableEq

/-- What a block does, with its parameters. -/
inductive Kind where
  | motion (command : Motion)
  | control (command : Control)
  | look (command : Look)
  deriving DecidableEq

/-- The most rounds that a repeated body runs: the largest 32-bit word. -/
def Control.maxRounds : Nat := 4294967295

/-- How often a repeated body runs: a count below one counts as one, and one
past the most rounds as those. -/
def Control.rounds : Control -> Nat
  | .times count => max 1 (min count.toInt.toNat maxRounds)

theorem Control.one_le_rounds (control : Control) : 1 ≤ control.rounds := by
  cases control
  exact Nat.le_max_left ..

theorem Control.rounds_le (control : Control) : control.rounds ≤ maxRounds := by
  cases control
  simp only [rounds, maxRounds]
  omega

namespace Kind

def holdsBlocks : Kind -> Bool
  | .control _ => true
  | _ => false

/-- How often the body of a block of the kind runs, if it has one. -/
def rounds? : Kind -> Option Nat
  | .control command => some command.rounds
  | _ => none

/-- A short name for messages. -/
def label : Kind -> String
  | .motion (.move _) => "move"
  | .motion (.turn _) => "turn"
  | .motion (.goTo _ _) => "goto"
  | .control (.times _) => "repeat"
  | .look (.say _) => "say"
  | .look (.sayFor _ _) => "say_for_seconds"

/-- The kind with its starting values that a family and an action name in the
palette.  Both names are read in either case. -/
def ofPalette? (family action : String) : Option Kind :=
  match family.map Char.toUpper, action.map Char.toUpper with
  | "MOTION", "MOVE" => some (.motion (.move 10.0))
  | "MOTION", "TURN" => some (.motion (.turn 15.0))
  | "MOTION", "GOTO" => some (.motion (.goTo 0.0 0.0))
  | "CONTROL", "REPEAT" => some (.control (.times 10))
  | "LOOK", "SAY" => some (.look (.say "Hello!"))
  | "LOOK", "SAY_FOR_SECONDS" => some (.look (.sayFor "Hello!" 2.0))
  | _, _ => none

/-- A parameter as a motion value; what is no number gives 0. -/
def motionValue (value : Parameter) : Float := value.number?.getD 0.0

/-- The 64-bit integer closest to a whole number. -/
def clampCount (whole : Int) : Int64 :=
  Int64.ofInt (max Int64.minValue.toInt (min whole Int64.maxValue.toInt))

/-- A parameter as a count, cut to its whole part; what is no number gives 1. -/
def countValue (value : Parameter) : Int64 :=
  match value.number? with
  | some number => clampCount (Number.wholePart number)
  | none => 1

/-- A parameter as a duration; what is no positive number gives 1. -/
def secondsValue (value : Parameter) : Float :=
  match value.number? with
  | some number => if number > 0.0 then number else 1.0
  | none => 1.0

def set (kind : Kind) (name : String) (value : Parameter) :
    Except ProgramRefusal Kind :=
  match kind, name with
  | .motion (.move _), "steps" => .ok (.motion (.move (motionValue value)))
  | .motion (.turn _), "degrees" => .ok (.motion (.turn (motionValue value)))
  | .motion (.goTo _ y), "x" => .ok (.motion (.goTo (motionValue value) y))
  | .motion (.goTo x _), "y" => .ok (.motion (.goTo x (motionValue value)))
  | .control (.times _), "repeatCount" => .ok (.control (.times (countValue value)))
  | .look (.say _), "message" => .ok (.look (.say value.wording))
  | .look (.sayFor _ seconds), "message" => .ok (.look (.sayFor value.wording seconds))
  | .look (.sayFor message _), "seconds" => .ok (.look (.sayFor message (secondsValue value)))
  | kind, name => .error (.noParameter kind.label name)

end Kind

end SpriteStage
