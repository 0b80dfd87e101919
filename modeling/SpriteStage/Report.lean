import SpriteStage.Event
import SpriteStage.Identity.Text
import SpriteStage.Number.Layout
import SpriteStage.World.Snapshot

namespace SpriteStage

/-!
# Reports

What the command line prints of a stage: one line for each event, and at the
end the number of blocks and a line for each actor.
-/

namespace Report

/-- A text with blanks after it, up to a width in characters. -/
def padRight (width : Nat) (text : String) : String :=
  text ++ String.ofList (List.replicate (width - text.length) ' ')

def padLeft (width : Nat) (text : String) : String :=
  String.ofList (List.replicate (width - text.length) ' ') ++ text

def eventLine : Event -> String
  | .collision event =>
    let x := Number.fixedText 1 event.midpoint.1
    let y := Number.fixedText 1 event.midpoint.2
    s!"collision: {event.first.toText} <-> {event.second.toText} at ({x}, {y}), programs swapped\n"
  | .said actor message (some seconds) =>
    s!"{actor.toText} says \"{message}\" for {Number.messageText seconds}s\n"
  | .said actor message none => s!"{actor.toText} says \"{message}\"\n"
  | .began actors => s!"run started ({actors} actors)\n"
  | .ended => "run stopped\n"
  | .reset => "reset\n"

def eventLines (events : List Event) : String := String.join (events.map eventLine)

/-- The lines of the events of one tick of a counted run. -/
def tickLines (tick : Nat) (events : List Event) : String :=
  String.join (events.map fun event => s!"tick {tick}: {eventLine event}")

def actorLine (actor : Actor) : String :=
  let name := padRight 12 actor.name
  let x := padLeft 8 (Number.fixedText 2 actor.pose.x)
  let y := padLeft 8 (Number.fixedText 2 actor.pose.y)
  let heading := padLeft 6 (Number.fixedText 1 actor.pose.heading)
  s!"  {name} x={x} y={y} heading={heading}\n"

def poseLines (snapshot : Snapshot) : String :=
  s!"{snapshot.blockCount} blocks placed\n" ++ String.join (snapshot.actors.map actorLine)

end Report

end SpriteStage
