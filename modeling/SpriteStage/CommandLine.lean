import SpriteStage.Loading
import SpriteStage.Report
import SpriteStage.Stage

namespace SpriteStage

/-!
# The command line

Three commands work on a scene without a renderer: `step` ticks all actors
together a number of times, `run` lets them tick by a clock, and `config`
prints the settings.  The clock of `run` is simulated, so nothing waits.
-/

inductive Command where
  | run (scene : Option String) (duration : Nat) (reset : Bool)
  | step (scene : String) (ticks : Nat)
  | config
  deriving DecidableEq

/-- A command with the file of its settings, if there is one. -/
structure Invocation where
  settings : Option String
  command : Command
  deriving DecidableEq

structure Response where
  exit : UInt32
  output : String
  /-- Why there is no output, for the person at the terminal. -/
  complaint : String
  deriving DecidableEq

namespace Invocation

/-- An option of a command, with the value that it takes. -/
structure Switch where
  name : String
  value : Option String
  deriving DecidableEq

/-- The name and the value of an argument of the form `--name=value`. -/
def splitSwitch (argument : String) : String × Option String :=
  let chars := argument.toList
  match chars.dropWhile (· ≠ '=') with
  | [] => (argument, none)
  | _ :: value => (String.ofList (chars.takeWhile (· ≠ '=')), some (String.ofList value))

/-- Read options that may be given, each at most once, up to the first argument
that is none.  Options in `flags` take no value. -/
def readSwitches (valued flags : List String) :
    List String -> Option (List Switch × List String)
  | [] => some ([], [])
  | argument :: rest =>
    let (name, given) := splitSwitch argument
    if flags.contains argument then
      match readSwitches valued flags rest with
      | some (switches, tail) => some (⟨argument, none⟩ :: switches, tail)
      | none => none
    else if valued.contains name then
      match given, rest with
      | some value, rest =>
        match readSwitches valued flags rest with
        | some (switches, tail) => some (⟨name, some value⟩ :: switches, tail)
        | none => none
      | none, value :: rest =>
        match readSwitches valued flags rest with
        | some (switches, tail) => some (⟨name, some value⟩ :: switches, tail)
        | none => none
      | none, [] => none
    else if argument.startsWith "-" then none
    else some ([], argument :: rest)

/-- The value of an option under any of its names, which is given once at most. -/
def valueOf (names : List String) (switches : List Switch) : Option (Option String) :=
  match switches.filter fun switch => names.contains switch.name with
  | [] => some none
  | [switch] => some switch.value
  | _ => none

/-- Whether an option without a value is given, once at most. -/
def isGiven (name : String) (switches : List Switch) : Option Bool :=
  match switches.filter fun switch => switch.name = name with
  | [] => some false
  | [_] => some true
  | _ => none

/-- A whole number below `2 ^ 64`, perhaps after a plus sign. -/
def wordOf? (text : String) : Option Nat :=
  let digits := match text.toList with
    | '+' :: rest => rest
    | chars => chars
  if digits.isEmpty || !digits.all Char.isDigit then none
  else
    let value := Number.readDigits digits
    if value < UInt64.size then some value else none

/-- A whole number as an option, with a value for when it is not given. -/
def wordOr (default : Nat) : Option String -> Option Nat
  | none => some default
  | some text => wordOf? text

def commandOf? : List String -> Option Command
  | "run" :: arguments => do
    let (switches, []) <- readSwitches ["--scene", "--duration-ms"] ["--reset"] arguments | none
    return .run (<- valueOf ["--scene"] switches)
      (<- wordOr 2000 (<- valueOf ["--duration-ms"] switches)) (<- isGiven "--reset" switches)
  | "step" :: arguments => do
    let (switches, []) <- readSwitches ["--scene", "--ticks", "-t"] [] arguments | none
    let some scene <- valueOf ["--scene"] switches | none
    return .step scene (<- wordOr 10 (<- valueOf ["--ticks", "-t"] switches))
  | ["config"] => some .config
  | _ => none

def ofArguments? (arguments : List String) : Option Invocation := do
  let (switches, rest) <- readSwitches ["--config", "-c"] [] arguments
  return ⟨<- valueOf ["--config", "-c"] switches, <- commandOf? rest⟩

/-- Tick a running world some times and print the events of each tick. -/
def tickedLines (now : Instant) : (count : Nat) -> (tick : Nat) -> World -> String × World
  | 0, _, world => ("", world)
  | count + 1, tick, world =>
    let (events, ticked) := world.tickTogether now
    let (lines, final) := tickedLines now count (tick + 1) ticked
    (Report.tickLines tick events ++ lines, final)

def stepReport (world : World) (ticks : Nat) (now : Instant) : String :=
  let (lines, ticked) := tickedLines now ticks 1 world.start.2
  lines ++ Report.poseLines ticked.finish.2.snapshot

/-- Run a stage for a while and print its events and how it ends.  The listener
reads all the time and misses nothing; it leaves before the run is stopped. -/
def runReport (stage : Stage) (duration : Nat) (reset : Bool) : Except Refusal String := do
  let (_, started) <- stage.run
  let advanced := started.advance duration
  let stopped := advanced.shutdown
  let final := if reset then stopped.reset else stopped
  return Report.eventLines advanced.timeline.feed.unread ++ Report.poseLines final.snapshot

/-- Do a command; `file` gives the bytes of the files that exist. -/
def perform (invocation : Invocation) (file : String -> Option ByteArray) (supply : IdSupply)
    (entropy : UInt64) (timeOfDay : Nat -> Instant) : Except Refusal String := do
  let settings <- match invocation.settings with
    | some path => Settings.load (file path)
    | none => .ok Settings.standard
  match invocation.command with
  | .config => return settings.toJson.toIndentedText ++ "\n"
  | .step path ticks =>
    let scene <- Scene.load (file path)
    let world <- scene.build settings supply entropy
    return stepReport world ticks (timeOfDay 0)
  | .run path duration reset =>
    let scene <- match path with
      | some path => Scene.load (file path)
      | none => .ok Scene.empty
    let world <- scene.build settings supply entropy
    runReport (Stage.ofWorld world settings true timeOfDay) duration reset

def usage : String :=
  "usage: [--config FILE] config | step --scene FILE [--ticks N] | " ++
    "run [--scene FILE] [--duration-ms N] [--reset]"

/-- Answer a command line.  A refusal leaves with 1 and wrong usage with 2, both
without output. -/
def respond (arguments : List String) (file : String -> Option ByteArray) (supply : IdSupply)
    (entropy : UInt64) (timeOfDay : Nat -> Instant) : Response :=
  match ofArguments? arguments with
  | none => ⟨2, "", usage⟩
  | some invocation =>
    match invocation.perform file supply entropy timeOfDay with
    | .ok output => ⟨0, output, ""⟩
    | .error refusal => ⟨1, "", refusal.message⟩

end Invocation

end SpriteStage
