import SpriteStage.Codec.Scene
import SpriteStage.Codec.Stage

namespace SpriteStage

/-!
# Formats

The types that have a form as data.  The canonical text of a value is
its compact text: every default is written out, and nothing that was skipped
is kept.
-/

/-- A type that has a form as data. -/
inductive Format where
  | settings | scene | sceneActor | sceneBlock | block | kind | parameter | pose | speech
  | actor | event | collision | program | snapshot
  deriving DecidableEq

namespace Format

/-- The data of a value, read and written again. -/
def recode? : Format -> Json -> Option Json
  | .settings, value => (Settings.ofJson? value).map Settings.toJson
  | .scene, value => (Scene.ofJson? value).map Scene.toJson
  | .sceneActor, value => (SceneActor.ofJson? value).map SceneActor.toJson
  | .sceneBlock, value => (SceneBlock.ofJson? value).map SceneBlock.toJson
  | .block, value => (Block.ofJson? value).map Block.toJson
  | .kind, value => (Kind.ofJson? value).map Kind.toJson
  | .parameter, value => (Parameter.ofJson? value).map Parameter.toJson
  | .pose, value => (Pose.ofJson? value).map Pose.toJson
  | .speech, value => (Speech.ofJson? value).map Speech.toJson
  | .actor, value => (Actor.ofJson? value).map Actor.toJson
  | .event, value => (Event.ofJson? value).map Event.toJson
  | .collision, value => (Collision.ofJson? value).map Collision.toJson
  | .program, value => (OwnedProgram.ofJson? value).map OwnedProgram.toJson
  | .snapshot, value => (Snapshot.ofJson? value).map Snapshot.toJson

/-- The canonical text of what a text stands for. -/
def canonical? (format : Format) (text : String) : Option String :=
  ((Json.ofText? text).bind format.recode?).map Json.toText

end Format

end SpriteStage
