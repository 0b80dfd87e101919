import SpriteStage.Actor.Palette
import SpriteStage.Identity.Supply
import SpriteStage.World.Edit

namespace SpriteStage

/-!
# Scenes

A scene describes a stage before anything has an identifier: its actors with
their poses, and their programs as bare trees of kinds.  Building a scene
hands out identifiers and places every block, a parent before its children.
-/

structure SceneBlock where
  kind : Kind
  children : List SceneBlock

structure SceneActor where
  name : String
  x : Float
  y : Float
  heading : Float
  /-- The colour; without one the palette deals one out. -/
  color : Option String
  program : List SceneBlock

structure Scene where
  actors : List SceneActor

/-- A world under construction, and how many blocks it has. -/
structure Placement where
  world : World
  placed : Nat

mutual

def Placement.placeBlock (supply : IdSupply) (actor : ActorId) (parent : Option BlockId) :
    SceneBlock -> Placement -> Except Refusal Placement
  | ⟨kind, children⟩, placement =>
    let id := supply.block placement.placed
    let edited := placement.world.insert (Block.unplaced id kind) parent actor
    match edited.outcome with
    | .error refusal => .error refusal
    | .ok _ =>
      Placement.placeAll supply actor (some id) children ⟨edited.world, placement.placed + 1⟩

def Placement.placeAll (supply : IdSupply) (actor : ActorId) (parent : Option BlockId) :
    List SceneBlock -> Placement -> Except Refusal Placement
  | [], placement => .ok placement
  | block :: rest, placement =>
    match Placement.placeBlock supply actor parent block placement with
    | .error refusal => .error refusal
    | .ok next => Placement.placeAll supply actor parent rest next

end

namespace Scene

/-- The scene without actors, which stands for the two standard ones. -/
def empty : Scene := ⟨[]⟩

/-- The actor of an index of a scene, before it has a program. -/
def actorOf (supply : IdSupply) (index : Nat) (actor : SceneActor) : Actor :=
  Actor.create (supply.actor index) actor.name (Pose.facing actor.x actor.y actor.heading)
    (actor.color.getD (paletteColor index))

def actorsFrom (supply : IdSupply) (index : Nat) : List SceneActor -> List Actor
  | [] => []
  | actor :: rest => actorOf supply index actor :: actorsFrom supply (index + 1) rest

/-- Place the programs of the actors of a scene, numbered from an index. -/
def placePrograms (supply : IdSupply) (index : Nat) :
    List SceneActor -> Placement -> Except Refusal Placement
  | [], placement => .ok placement
  | actor :: rest, placement =>
    match Placement.placeAll supply (supply.actor index) none actor.program placement with
    | .error refusal => .error refusal
    | .ok next => placePrograms supply (index + 1) rest next

/-- Build the world of a scene.  Blocks below a block that holds none are
refused. -/
def build (scene : Scene) (settings : Settings) (supply : IdSupply) (entropy : UInt64) :
    Except Refusal World :=
  if scene.actors.isEmpty then
    .ok (World.standard (supply.actor 0) (supply.actor 1) settings entropy)
  else
    match World.populated (actorsFrom supply 0 scene.actors) settings entropy with
    | .error refusal => .error refusal
    | .ok world => (placePrograms supply 0 scene.actors ⟨world, 0⟩).map Placement.world

end Scene

end SpriteStage
