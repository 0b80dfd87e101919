import SpriteStage.Actor
import SpriteStage.Actor.Palette
import SpriteStage.Refusal
import SpriteStage.Random.Draws

namespace SpriteStage

/-!
# The cast

The actors of a stage in the order of their creation, with the source of the
random places and colours of those still to come.  Looking an actor up finds
the first one with the identifier.  The last actor cannot be removed.
-/

/-- The actors of a stage. -/
structure Cast where
  actors : List Actor
  draws : Random.Draws
  /-- The width of the square, around the origin, in which actors spawn. -/
  spread : Float

namespace Cast

def ofActors (actors : List Actor) (seed : UInt64) (spread : Float) : Cast :=
  ⟨actors, Random.Draws.ofSeed seed, spread⟩

/-- The two actors of a stage for which nobody chose any. -/
def standardActors (first second : ActorId) : List Actor :=
  [Actor.create first "Sprite 1" (Pose.facing 0.0 0.0 90.0) "#FF5722",
    Actor.create second "Sprite 2" (Pose.facing 100.0 0.0 270.0) "#2196F3"]

def ids (cast : Cast) : List ActorId := cast.actors.map Actor.id

def size (cast : Cast) : Nat := cast.actors.length

def get? (cast : Cast) (id : ActorId) : Option Actor :=
  cast.actors.find? fun actor => actor.id = id

def contains (cast : Cast) (id : ActorId) : Bool := (cast.get? id).isSome

/-- Change the first actor with an identifier in a list. -/
def modifyFirst (id : ActorId) (change : Actor -> Actor) : List Actor -> List Actor
  | [] => []
  | actor :: rest =>
    if actor.id = id then change actor :: rest else actor :: modifyFirst id change rest

def modify (cast : Cast) (id : ActorId) (change : Actor -> Actor) : Cast :=
  { cast with actors := modifyFirst id change cast.actors }

/-- Change an actor that must be in the cast. -/
def change (cast : Cast) (id : ActorId) (change : Actor -> Actor) : Except CastRefusal Cast :=
  if cast.contains id then .ok (cast.modify id change) else .error (.noActor id)

/-- Place an actor; without a heading it keeps its own. -/
def place (cast : Cast) (id : ActorId) (x y : Float) (heading : Option Float) :
    Except CastRefusal Cast :=
  cast.change id fun actor => actor.placed x y heading

def rename (cast : Cast) (id : ActorId) (name : String) : Except CastRefusal Cast :=
  cast.change id fun actor => actor.renamed name

def insert (cast : Cast) (actor : Actor) : Cast := { cast with actors := cast.actors ++ [actor] }

/-- Take the first actor with an identifier out, unless it is the only actor. -/
def remove (cast : Cast) (id : ActorId) : Except CastRefusal (Actor × Cast) :=
  match cast.get? id with
  | none => .error (.noActor id)
  | some actor =>
    if cast.size = 1 then .error (.lastActor id)
    else .ok (actor, { cast with actors := cast.actors.eraseP fun other => other.id = id })

/-- Put every actor back to its baseline and silence it. -/
def reset (cast : Cast) : Cast := { cast with actors := cast.actors.map Actor.restored }

def hush (cast : Cast) : Cast := { cast with actors := cast.actors.map Actor.silent }

/-- Draw the place of a new actor.  A square without width takes no draw. -/
def drawPlace (spread : Float) (draws : Random.Draws) :
    Except SpawnRefusal ((Float × Float) × Random.Draws) :=
  let half := spread / 2.0
  if half > 0.0 then
    if half.isFinite then
      let (x, afterX) := draws.offset half
      let (y, afterY) := afterX.offset half
      .ok ((x, y), afterY)
    else .error .unboundedSpread
  else .ok ((0.0, 0.0), draws)

/-- Append a new actor under a fresh identifier, at a random place and in a
colour that no other actor has, while there are such colours. -/
def spawn (cast : Cast) (fresh : ActorId) : Except SpawnRefusal Cast :=
  match drawPlace cast.spread cast.draws with
  | .error refusal => .error refusal
  | .ok ((x, y), afterPlace) =>
    let (color, rest) := afterPlace.choose (freeColors (cast.actors.map Actor.color))
    let name := s!"Sprite {cast.size + 1}"
    let actor := Actor.create fresh name (Pose.facing x y 90.0) (color.getD (paletteColor 0))
    .ok { cast.insert actor with draws := rest }

end Cast

end SpriteStage
