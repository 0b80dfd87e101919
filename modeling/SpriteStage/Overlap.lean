import SpriteStage.Actor
import SpriteStage.Number.Distance

namespace SpriteStage

/-!
# Collisions

Two actors collide while their places are closer than the collision radius.
A pair of actors is written with the lower identifier first.  The debounce
set holds the pairs that overlapped when it was last refreshed, so that a
refresh can tell which overlaps are new.
-/

def Pose.overlaps (first second : Pose) (radius : Float) : Bool :=
  Number.distance (first.x - second.x) (first.y - second.y) < radius

/-- Two actors, the one with the lower identifier first. -/
structure ActorPair where
  first : ActorId
  second : ActorId
  deriving DecidableEq

namespace ActorPair

def of (one other : ActorId) : ActorPair := if one ≤ other then ⟨one, other⟩ else ⟨other, one⟩

def involves (pair : ActorPair) (actor : ActorId) : Bool :=
  pair.first = actor || pair.second = actor

end ActorPair

/-- The pairs of an actor with those of a list that it overlaps. -/
def pairsWith (actor : Actor) (others : List Actor) (radius : Float) : List ActorPair :=
  (others.filter fun other => actor.pose.overlaps other.pose radius).map fun other =>
    ActorPair.of actor.id other.id

/-- All overlapping pairs of a list of actors, each actor with those after it. -/
def pairsAmong (radius : Float) : List Actor -> List ActorPair
  | [] => []
  | actor :: rest => pairsWith actor rest radius ++ pairsAmong radius rest

/-- The pairs that overlapped at the last refresh. -/
structure Debounce where
  held : List ActorPair

namespace Debounce

def empty : Debounce := ⟨[]⟩

instance : Inhabited Debounce := ⟨empty⟩

def contains (debounce : Debounce) (pair : ActorPair) : Bool := pair ∈ debounce.held

def size (debounce : Debounce) : Nat := debounce.held.length

/-- The pairs of a list that are not held yet, each once. -/
def fresh (held : List ActorPair) : List ActorPair -> List ActorPair
  | [] => []
  | pair :: rest =>
    if pair ∈ held then fresh held rest else pair :: fresh (held ++ [pair]) rest

/-- Let go of the pairs that no longer overlap and hold the ones that do now.
The pairs that are held for the first time come out, in order. -/
def refresh (debounce : Debounce) (overlapping : List ActorPair) : List ActorPair × Debounce :=
  let kept := debounce.held.filter fun pair => pair ∈ overlapping
  let started := fresh kept overlapping
  (started, ⟨kept ++ started⟩)

def forget (debounce : Debounce) (actor : ActorId) : Debounce :=
  ⟨debounce.held.filter fun pair => !pair.involves actor⟩

end Debounce

end SpriteStage
