import SpriteStage.Codec.Format
import SpriteStage.Proofs.Codec.Scene
import SpriteStage.Proofs.Codec.Stage

namespace SpriteStage

open Json (Sized ReadsBack nestingLimit)

/-!
# Texts of values

A text that is written of a value is read as the value again, for every type
that has a form as data.  The counts in the value must fit a word, its form
must not be nested deeper than the reader goes, and each of its doubles must
be read back from its own digits.  No other condition is needed: the forms of
two values of a type are never confused.
-/

namespace Format

def Value : Format -> Type
  | .settings => Settings
  | .scene => Scene
  | .sceneActor => SceneActor
  | .sceneBlock => SceneBlock
  | .block => Block
  | .kind => Kind
  | .parameter => Parameter
  | .pose => Pose
  | .speech => Speech
  | .actor => Actor
  | .event => Event
  | .collision => Collision
  | .program => OwnedProgram
  | .snapshot => Snapshot

def encode : (format : Format) -> format.Value -> Json
  | .settings => Settings.toJson
  | .scene => Scene.toJson
  | .sceneActor => SceneActor.toJson
  | .sceneBlock => SceneBlock.toJson
  | .block => Block.toJson
  | .kind => Kind.toJson
  | .parameter => Parameter.toJson
  | .pose => Pose.toJson
  | .speech => Speech.toJson
  | .actor => Actor.toJson
  | .event => Event.toJson
  | .collision => Collision.toJson
  | .program => OwnedProgram.toJson
  | .snapshot => Snapshot.toJson

def decode? : (format : Format) -> Json -> Option format.Value
  | .settings => Settings.ofJson?
  | .scene => Scene.ofJson?
  | .sceneActor => SceneActor.ofJson?
  | .sceneBlock => SceneBlock.ofJson?
  | .block => Block.ofJson?
  | .kind => Kind.ofJson?
  | .parameter => Parameter.ofJson?
  | .pose => Pose.ofJson?
  | .speech => Speech.ofJson?
  | .actor => Actor.ofJson?
  | .event => Event.ofJson?
  | .collision => Collision.ofJson?
  | .program => OwnedProgram.ofJson?
  | .snapshot => Snapshot.ofJson?

def write (format : Format) (value : format.Value) : String := (format.encode value).toText

def read? (format : Format) (text : String) : Option format.Value :=
  (Json.ofText? text).bind format.decode?

theorem recode?_eq (format : Format) (value : Json) :
    format.recode? value = (format.decode? value).map format.encode := by
  cases format <;> rfl

/-- A text is made canonical by reading and writing it. -/
theorem canonical?_eq (format : Format) (text : String) :
    format.canonical? text = (format.read? text).map format.write := by
  rw [canonical?, read?, funext (recode?_eq format)]
  cases Json.ofText? text with
  | none => rfl
  | some value => rw [Option.bind_some, Option.bind_some, Option.map_map]; rfl

/-- Whether the counts in a value fit a word. -/
def Fits : (format : Format) -> format.Value -> Prop
  | .event => Event.Fits
  | .snapshot => fun snapshot : Snapshot => snapshot.blockCount < UInt64.size
  | _ => fun _ => True

variable {format : Format} {value : format.Value}

theorem decode?_encode (fits : format.Fits value) :
    format.decode? (format.encode value) = some value := by
  cases format with
  | settings => exact Settings.ofJson?_toJson value
  | scene => exact Scene.ofJson?_toJson value
  | sceneActor => exact SceneActor.ofJson?_toJson value
  | sceneBlock => exact SceneBlock.ofJson?_toJson value
  | block => exact Block.ofJson?_toJson value
  | kind => exact Kind.ofJson?_toJson value
  | parameter => exact Parameter.ofJson?_toJson value
  | pose => exact Pose.ofJson?_toJson value
  | speech => exact Speech.ofJson?_toJson value
  | actor => exact Actor.ofJson?_toJson value
  | event => exact Event.ofJson?_toJson value fits
  | collision => exact Collision.ofJson?_toJson value
  | program => exact OwnedProgram.ofJson?_toJson value
  | snapshot => exact Snapshot.ofJson?_toJson value fits

theorem sized_encode (fits : format.Fits value) : Sized (format.encode value) := by
  cases format with
  | settings => exact Settings.sized_toJson value
  | scene => exact Scene.sized_toJson value
  | sceneActor => exact SceneActor.sized_toJson value
  | sceneBlock => exact SceneBlock.sized_toJson value
  | block => exact Block.sized_toJson value
  | kind => exact Kind.sized_toJson value
  | parameter => exact Parameter.sized_toJson value
  | pose => exact Pose.sized_toJson value
  | speech => exact Speech.sized_toJson value
  | actor => exact Actor.sized_toJson value
  | event => exact Event.sized_toJson value fits
  | collision => exact Collision.sized_toJson value
  | program => exact OwnedProgram.sized_toJson value
  | snapshot => exact Snapshot.sized_toJson value fits

/-- Two values of a format never have the same form. -/
theorem encode_injective {other : format.Value} (fits : format.Fits value)
    (otherFits : format.Fits other) (same : format.encode value = format.encode other) :
    value = other := by
  have back := decode?_encode fits
  rw [same, decode?_encode otherFits] at back
  exact (Option.some.inj back).symm

/-- Reading what was written begins with the characters of the form. -/
theorem read?_write (format : Format) (value : format.Value) :
    format.read? (format.write value) =
      (Json.ofChars? (format.encode value).chars).bind format.decode? := by
  rw [read?, write, Json.ofText?, Json.toText, String.toList_ofList]

/-- What is written of a value is read as the value again.

Two of the conditions are about the written form: it is nested no deeper than a
reader goes, and each double in it is read back from its own digits.  The other
one, that counts fit 64 bits, is met by whatever fits into memory. -/
theorem reads_what_is_written (format : Format) (value : format.Value) (fits : format.Fits value)
    (shallow : (format.encode value).depth ≤ nestingLimit)
    (legible : forall double, double ∈ (format.encode value).reals -> ReadsBack double) :
    format.read? (format.write value) = some value := by
  rw [read?, write, Json.ofText?_toText (sized_encode fits),
    Json.reread_eq_self nestingLimit _ shallow legible, Option.bind_some, decode?_encode fits]

section Sample

def sampleLoop : Block :=
  ⟨⟨Uuid.ofNat 1⟩, .control (.times 3), .nobody, none,
    [⟨⟨Uuid.ofNat 2⟩, .motion (.move 1.5), .nobody, some ⟨Uuid.ofNat 1⟩, []⟩,
      ⟨⟨Uuid.ofNat 3⟩, .look (.sayFor "Hi, \"you\"" 2.0), .nobody, some ⟨Uuid.ofNat 1⟩, []⟩]⟩

theorem sampleLoop_is_read : Format.block.Fits sampleLoop ∧
    (Format.block.encode sampleLoop).depth ≤ nestingLimit ∧
    (forall double, double ∈ (Format.block.encode sampleLoop).reals -> ReadsBack double) ∧
    Format.block.read? (Format.block.write sampleLoop) = some sampleLoop := by
  have fits : Format.block.Fits sampleLoop := trivial
  have shallow : (Format.block.encode sampleLoop).depth ≤ nestingLimit := by decide
  have legible : forall double, double ∈ (Format.block.encode sampleLoop).reals ->
      ReadsBack double := by decide +kernel
  exact ⟨fits, shallow, legible, reads_what_is_written .block sampleLoop fits shallow legible⟩

end Sample

end Format

end SpriteStage
