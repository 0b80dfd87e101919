import SpriteStage.Proofs.Block.Placement
import SpriteStage.World.Edit
import SpriteStage.World.Run

namespace SpriteStage

/-!
# Histories of a world

A history is a list of operations in any order, each of which may succeed or
be refused.  A world allows a history when every identifier of a new actor is
new at that time, and every inserted tree is a tree of blocks with distinct
identifiers in which only blocks of a kind that holds others have children.
Nothing else is asked of the callers of a world.
-/

inductive Operation where
  | spawn (fresh : ActorId)
  | rename (actor : ActorId) (name : String)
  | place (actor : ActorId) (x y heading : Float)
  | dismiss (actor : ActorId)
  | insert (node : Block) (parent : Option BlockId) (actor : ActorId)
  | remove (block : BlockId)
  | move (block : BlockId) (actor : ActorId) (parent : Option BlockId)
  | adjust (block : BlockId) (name : String) (value : Parameter)
  | start
  | finish
  | restore
  | tick (actor : ActorId) (generation : Nat) (now : Instant)
  | tickTogether (now : Instant)
  | sweep (now : Instant)

namespace Operation

def apply (world : World) : Operation -> World
  | .spawn fresh =>
    match world.spawn fresh with
    | .ok next => next
    | .error _ => world
  | .rename actor name => (world.rename actor name).world
  | .place actor x y heading => (world.place actor x y heading).world
  | .dismiss actor => (world.dismiss actor).world
  | .insert node parent actor => (world.insert node parent actor).world
  | .remove block => (world.remove block).world
  | .move block actor parent => (world.move block actor parent).world
  | .adjust block name value => (world.adjust block name value).world
  | .start => world.start.2
  | .finish => world.finish.2
  | .restore => world.restore
  | .tick actor generation now => (world.tick actor generation now).2
  | .tickTogether now => (world.tickTogether now).2
  | .sweep now => (world.sweep now).2

/-- What is asked of the caller of an operation. -/
def Allowed (world : World) : Operation -> Prop
  | .spawn fresh => fresh ∉ world.cast.ids
  | .insert node _ _ => node.ids.Nodup ∧ Forest.Nested [node]
  | _ => True

end Operation

namespace World

def after (world : World) (history : List Operation) : World :=
  history.foldl Operation.apply world

/-- Whether each operation of a history is allowed when its turn comes. -/
def Allows (world : World) : List Operation -> Prop
  | [] => True
  | operation :: rest => operation.Allowed world ∧ (operation.apply world).Allows rest

/-- The worlds that histories begin with: actors with distinct identifiers,
of which there is at least one, and nothing else. -/
inductive Created : World -> Prop
  | populated (actors : List Actor) (settings : Settings) (entropy : UInt64) (world : World)
      (distinct : (actors.map Actor.id).Nodup)
      (accepted : World.populated actors settings entropy = .ok world) : Created world
  | standard (first second : ActorId) (settings : Settings) (entropy : UInt64)
      (different : first ≠ second) : Created (World.standard first second settings entropy)

/-- What every allowed operation keeps holds after every allowed history. -/
theorem after_of_preserved {Invariant : World -> Prop}
    (preserved : forall (world : World) (operation : Operation), operation.Allowed world ->
      Invariant world -> Invariant (operation.apply world))
    (history : List Operation) :
    forall world, world.Allows history -> Invariant world -> Invariant (world.after history) := by
  induction history with
  | nil => exact fun _ _ holds => holds
  | cons operation rest step =>
    intro world allowed holds
    exact step (operation.apply world) allowed.2 (preserved world operation allowed.1 holds)

end World

end SpriteStage
