import SpriteStage.Codec.Stage
import SpriteStage.Proofs.Codec.Block

namespace SpriteStage

open Json (slots_object variant?_object Sized SizedItems)

/-!
# Stages survive as data

Reading undoes writing for everything that a renderer reads.  The two counts
among it, of actors in an event and of blocks in a snapshot, must fit a word.
-/

@[simp] theorem Instant.ofJson?_toJson (instant : Instant) :
    ofJson? instant.toJson = some instant := by
  rw [ofJson?, toJson, Json.asString, Option.bind_some, ofText?_text]

theorem Json.asNullable_ofFloat (value : Option Float) :
    asNullable asFloat (ofOption ofFloat value) = some value := by
  apply asNullable_ofOption
  · exact asFloat_ofFloat
  · exact fun _ => nofun

theorem Json.sized_ofFloat (value : Option Float) : Sized (ofOption ofFloat value) := by
  apply sized_ofOption
  exact fun _ => trivial

/-! ## Actors -/

namespace Pose

@[simp] theorem ofJson?_toJson (pose : Pose) : ofJson? pose.toJson = some pose := by
  rw [toJson, ofJson?, slots_object]
  · rfl
  · rfl
  · decide

theorem sized_toJson (pose : Pose) : Sized pose.toJson := by
  simp [toJson, Sized, Json.SizedMembers, Json.ofFloat]

end Pose

namespace Speech

@[simp] theorem ofJson?_toJson (speech : Speech) : ofJson? speech.toJson = some speech := by
  rw [toJson, ofJson?, slots_object]
  · simp [Json.asNullable_ofFloat, Json.asString]
  · rfl
  · decide

theorem sized_toJson (speech : Speech) : Sized speech.toJson := by
  simp [toJson, Sized, Json.SizedMembers, Instant.toJson, Json.sized_ofFloat]

end Speech

namespace Actor

@[simp] theorem ofJson?_toJson (actor : Actor) : ofJson? actor.toJson = some actor := by
  have speech : Json.asNullable Speech.ofJson? (Json.ofOption Speech.toJson actor.speech) =
      some actor.speech :=
    Json.asNullable_ofOption Speech.ofJson?_toJson (fun _ => nofun) actor.speech
  rw [toJson, ofJson?, slots_object]
  · simp [speech, Json.asString]
  · rfl
  · decide

theorem sized_toJson (actor : Actor) : Sized actor.toJson := by
  have speech := Json.sized_ofOption Speech.sized_toJson actor.speech
  simp [toJson, Sized, Json.SizedMembers, ActorId.toJson, Pose.sized_toJson, speech]

end Actor

/-! ## Events -/

@[simp] theorem Json.asPoint_ofPoint (point : Float × Float) :
    (ofPoint point).asPoint = some point := rfl

namespace Collision

@[simp] theorem ofJson?_toJson (collision : Collision) :
    ofJson? collision.toJson = some collision := by
  rw [toJson, ofJson?, slots_object]
  · simp [toMembers]
  · rfl
  · decide

theorem sized_toMembers (collision : Collision) : Json.SizedMembers collision.toMembers := by
  simp [toMembers, Sized, Json.SizedMembers, SizedItems, ActorId.toJson, Instant.toJson,
    Json.ofPoint, Json.ofFloat]

theorem sized_toJson (collision : Collision) : Sized collision.toJson :=
  collision.sized_toMembers

end Collision

namespace Event

/-- Whether the number of actors that an event announces fits a word. -/
def Fits : Event -> Prop
  | .began actors => actors < UInt64.size
  | _ => True

/-- The beginning of a run is read from any form of its number of actors.  It
is not stated of the written number itself, because checking a simplification
would count up to the size of a word. -/
theorem ofJson?_began {count : Json} {actors : Nat} (whole : count.intact = true)
    (counted : count.asNatural = some actors) :
    ofJson? (.object [("event", .string "run_started"), ("actors", count)]) =
      some (.began actors) := by
  have intact : (Json.object [("event", .string "run_started"), ("actors", count)]).intact = true := by
    simp [Json.intact, Json.intactMembers, whole]
  rw [ofJson?, variant?_object ["actors"] intact rfl (by decide)]
  simp only [Option.bind_eq_bind, Option.bind_some, Json.asString]
  rw [slots_object]
  · simp [counted]
  · rfl
  · decide

theorem ofJson?_toJson (event : Event) (fits : event.Fits) : ofJson? event.toJson = some event := by
  cases event with
  | began actors => exact ofJson?_began rfl (Json.asNatural_ofNat fits)
  | ended =>
    rw [toJson, ofJson?, variant?_object [] rfl rfl (by decide)]
    simp [Json.asString, isBare]
  | reset =>
    rw [toJson, ofJson?, variant?_object [] rfl rfl (by decide)]
    simp [Json.asString, isBare]
  | collision event =>
    have inside : Collision.ofJson? (.object event.toMembers) = some event :=
      Collision.ofJson?_toJson event
    rw [toJson, ofJson?, variant?_object ["first", "second", "midpoint", "at"] rfl rfl (by decide)]
    simp [Json.asString, inside]
  | said actor message seconds =>
    have whole : (Event.said actor message seconds).toJson.intact = true := by
      cases seconds <;> rfl
    rw [toJson] at whole
    rw [toJson, ofJson?, variant?_object ["actor", "message", "seconds"] whole rfl (by decide)]
    simp only [Option.bind_eq_bind, Option.bind_some, Json.asString]
    rw [slots_object]
    · simp [Json.asNullable_ofFloat, Json.asString]
    · rfl
    · decide

theorem sized_toJson (event : Event) (fits : event.Fits) : Sized event.toJson := by
  cases event with
  | began actors => exact ⟨trivial, Json.sized_ofNat fits, trivial⟩
  | ended => exact ⟨trivial, trivial⟩
  | reset => exact ⟨trivial, trivial⟩
  | collision event => exact ⟨trivial, event.sized_toMembers⟩
  | said actor message seconds =>
    exact ⟨trivial, trivial, trivial, Json.sized_ofFloat seconds, trivial⟩

end Event

/-! ## Settings and snapshots -/

namespace Settings

theorem asWord_ofNat (word : UInt64) : asWord (Json.ofNat word.toNat) = some word := by
  rw [asWord, Json.asNatural_ofNat word.toNat_lt, Option.map_some, UInt64.ofNat_toNat]

/-- Settings are read from any form of their words. -/
theorem ofJson?_object {written chosen : Json} {interval : UInt64} {seed : Option UInt64}
    (radius spread : Float) (debug : Bool) (period : asWord written = some interval)
    (choice : Json.asNullable asWord chosen = some seed) :
    ofJson? (.object [("tick_interval_ms", written), ("collision_radius", .ofFloat radius),
      ("spawn_spread", .ofFloat spread), ("seed", chosen), ("debug", .bool debug)]) =
        some ⟨interval, radius, spread, seed, debug⟩ := by
  rw [ofJson?, slots_object]
  · simp [period, choice, Json.asBool]
  · rfl
  · decide

@[simp] theorem ofJson?_toJson (settings : Settings) :
    ofJson? settings.toJson = some settings :=
  ofJson?_object settings.radius settings.spread settings.debug (asWord_ofNat settings.interval)
    (Json.asNullable_ofOption asWord_ofNat (fun _ => nofun) settings.seed)

theorem sized_toJson (settings : Settings) : Sized settings.toJson := by
  have interval := Json.sized_ofNat settings.interval.toNat_lt
  have seed : Sized (Json.ofOption (fun seed : UInt64 => Json.ofNat seed.toNat) settings.seed) :=
    Json.sized_ofOption (fun seed => Json.sized_ofNat seed.toNat_lt) settings.seed
  exact ⟨interval, trivial, trivial, seed, trivial, trivial⟩

end Settings

namespace OwnedProgram

@[simp] theorem ofJson?_toJson (program : OwnedProgram) :
    ofJson? program.toJson = some program := by
  have blocks : Json.asListOf Block.ofJson? (.array (Forest.toItems program.blocks)) =
      some program.blocks := by
    rw [Forest.toItems_eq_map]
    exact Json.asListOf_map fun node _ => Block.ofJson?_toJson node
  rw [toJson, ofJson?, slots_object]
  · simp [blocks]
  · rfl
  · decide

theorem sized_toJson (program : OwnedProgram) : Sized program.toJson :=
  ⟨trivial, Forest.sized_toItems program.blocks, trivial⟩

end OwnedProgram

namespace Snapshot

theorem ofJson?_toJson (snapshot : Snapshot) (fits : snapshot.blockCount < UInt64.size) :
    ofJson? snapshot.toJson = some snapshot := by
  have actors : Json.asListOf Actor.ofJson? (.array (snapshot.actors.map Actor.toJson)) =
      some snapshot.actors := Json.asListOf_map fun actor _ => Actor.ofJson?_toJson actor
  have programs : Json.asListOf OwnedProgram.ofJson?
      (.array (snapshot.programs.map OwnedProgram.toJson)) = some snapshot.programs :=
    Json.asListOf_map fun program _ => OwnedProgram.ofJson?_toJson program
  rw [toJson, ofJson?, slots_object]
  · simp [actors, programs, Json.asNatural_ofNat fits, Json.asBool]
  · rfl
  · decide

theorem sized_toJson (snapshot : Snapshot) (fits : snapshot.blockCount < UInt64.size) :
    Sized snapshot.toJson := by
  have actors := Json.sizedItems_map fun actor (_ : actor ∈ snapshot.actors) =>
    Actor.sized_toJson actor
  have programs := Json.sizedItems_map fun program (_ : program ∈ snapshot.programs) =>
    OwnedProgram.sized_toJson program
  exact ⟨trivial, actors, programs, Json.sized_ofNat fits, trivial⟩

end Snapshot

end SpriteStage
