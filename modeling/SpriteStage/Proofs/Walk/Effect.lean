import SpriteStage.Proofs.Actor.Lookup
import SpriteStage.Proofs.Walk.Schedule

namespace SpriteStage

/-!
# What an action does

An action is described here by itself, without the walk that carries it out.
Steps lead along the heading, across by its sine and along the vertical axis by
its cosine with the sign turned.  A turn adds to the heading, and a jump names
the place.  Each of them wraps the heading again.  A look command leaves the
pose as it is: it shows a bubble and announces it.

The functions of a walk are shown to do the same.
-/

namespace Action

def pose : Action -> Pose -> Pose
  | .motion (.move steps), pose =>
    let angle := pose.heading * (Pose.pi / 180.0)
    ⟨pose.x + angle.sin * steps, pose.y + -angle.cos * steps, Number.wrapDegrees pose.heading⟩
  | .motion (.turn degrees), pose =>
    ⟨pose.x, pose.y, Number.wrapDegrees (pose.heading + degrees)⟩
  | .motion (.goTo x y), pose => ⟨x, y, Number.wrapDegrees pose.heading⟩
  | .look _, pose => pose

def bubble (now : Instant) : Action -> Option Speech -> Option Speech
  | .motion _, shown => shown
  | .look (.say message), _ => some ⟨message, none, now⟩
  | .look (.sayFor message seconds), _ => some ⟨message, some seconds, now⟩

/-- What an action does to the actor that carries it out: nothing but the pose
and the bubble is touched. -/
def effect (now : Instant) (action : Action) (actor : Actor) : Actor :=
  { actor with pose := action.pose actor.pose, speech := action.bubble now actor.speech }

def effects (now : Instant) (actions : List Action) (actor : Actor) : Actor :=
  actions.foldl (fun actor action => action.effect now actor) actor

/-- What an action announces: a look command, what is said. -/
def event? (actor : ActorId) : Action -> Option Event
  | .motion _ => none
  | .look (.say message) => some (.said actor message none)
  | .look (.sayFor message seconds) => some (.said actor message (some seconds))

/-- A walk moves an actor as the motion is described. -/
theorem effect_motion (now : Instant) (command : Motion) (actor : Actor) :
    effect now (.motion command) actor = Walk.moved command actor := by
  cases command <;> rfl

/-- A walk lets an actor speak as the look command is described. -/
theorem effect_look (now : Instant) (command : Look) (actor : Actor) :
    effect now (.look command) actor =
      actor.saying (Walk.speech command).1 (Walk.speech command).2 now := by
  cases command <;> rfl

theorem event?_look (actor : ActorId) (command : Look) :
    event? actor (.look command) =
      some (.said actor (Walk.speech command).1 (Walk.speech command).2) := by
  cases command <;> rfl

theorem id_effects (now : Instant) (actions : List Action) :
    forall actor : Actor, (effects now actions actor).id = actor.id := by
  induction actions with
  | nil => exact fun _ => rfl
  | cons action rest step => exact fun actor => step (action.effect now actor)

theorem effects_append (now : Instant) (first second : List Action) (actor : Actor) :
    effects now (first ++ second) actor = effects now second (effects now first actor) := by
  simp only [effects, List.foldl_append]

/-- Where actions take an actor depends on nothing but its pose. -/
theorem pose_effects (now : Instant) (actions : List Action) :
    forall actor : Actor, (effects now actions actor).pose =
      actions.foldl (fun pose action => action.pose pose) actor.pose := by
  induction actions with
  | nil => exact fun _ => rfl
  | cons action rest step => exact fun actor => step (action.effect now actor)

end Action

end SpriteStage
