import SpriteStage.Number.Remainder

namespace SpriteStage

/-!
# Poses

A pose is a place and a heading.  The heading is counted in degrees clockwise
from up, and a pose that is built here has it in the range from 0 to 360.
-/

structure Pose where
  x : Float
  y : Float
  heading : Float
  deriving DecidableEq

namespace Pose

/-- The pose at a place, with the heading wrapped into range. -/
def facing (x y heading : Float) : Pose := ⟨x, y, Number.wrapDegrees heading⟩

/-- The number π, as the nearest double. -/
def pi : Float := Float.ofBits 0x400921fb54442d18

def radians (degrees : Float) : Float := degrees * (pi / 180.0)

/-- How far a number of steps along a heading leads: across, and along the
vertical axis with its sign turned. -/
def stepDelta (heading steps : Float) : Float × Float :=
  let angle := radians heading
  (angle.sin * steps, -angle.cos * steps)

def midpoint (first second : Pose) : Float × Float :=
  ((first.x + second.x) / 2.0, (first.y + second.y) / 2.0)

end Pose

end SpriteStage
