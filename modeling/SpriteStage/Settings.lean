import SpriteStage.Refusal

namespace SpriteStage

/-!
# Settings

What can be set for a stage.  Settings are checked only where they are
loaded; a stage takes them as they are.
-/

structure Settings where
  /-- Milliseconds between two ticks of an actor. -/
  interval : UInt64
  /-- Actors whose places are closer than this collide. -/
  radius : Float
  /-- The width of the square, around the origin, in which actors spawn. -/
  spread : Float
  /-- What selects the random places and colours; without it they vary. -/
  seed : Option UInt64
  debug : Bool
  deriving DecidableEq

namespace Settings

/-- The settings for which nobody chose any. -/
def standard : Settings := ⟨100, 24.0, 100.0, none, false⟩

instance : Inhabited Settings := ⟨standard⟩

/-- Milliseconds between two ticks, at least one. -/
def period (settings : Settings) : Nat := max 1 settings.interval.toNat

theorem period_pos (settings : Settings) : 0 < settings.period := Nat.le_max_left ..

def verbosity (settings : Settings) : String := if settings.debug then "DEBUG" else "INFO"

def isWidth (value : Float) : Bool := value.isFinite && !(value < 0.0)

def check (settings : Settings) : Except SettingRefusal Unit :=
  if !isWidth settings.radius then .error (.badRadius settings.radius)
  else if !isWidth settings.spread then .error (.badSpread settings.spread)
  else .ok ()

end Settings

end SpriteStage
