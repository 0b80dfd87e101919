import SpriteStage.Codec.Scene
import SpriteStage.Proofs.Codec.Block
import SpriteStage.Proofs.Scene.Nodes

namespace SpriteStage

open Json (slots_object Sized SizedItems)

/-!
# Scenes survive as data

A scene is written with all of its fields, so that none of the standard
values is used when it is read back.
-/

theorem SceneBlock.toItems_eq_map (blocks : List SceneBlock) :
    SceneBlock.toItems blocks = blocks.map SceneBlock.toJson := by
  induction blocks with
  | nil => rfl
  | cons block rest step => rw [SceneBlock.toItems, step, List.map_cons]

theorem SceneBlock.ofLevels?_toJson (blocks : List SceneBlock) : forall levels : Nat,
    Json.depthItems (SceneBlock.toItems blocks) ≤ levels ->
      forall block, block ∈ blocks -> SceneBlock.ofLevels? levels block.toJson = some block := by
  induction blocks using SceneBlock.induction with
  | nil => exact fun _ _ _ member => absurd member List.not_mem_nil
  | cons kind children rest below later =>
    intro levels enough block member
    rw [SceneBlock.toItems, Json.depthItems, Nat.max_le] at enough
    rcases List.mem_cons.1 member with rfl | others
    · have room := enough.1
      simp only [SceneBlock.toJson, Json.depth, Json.depthMembers] at room
      cases levels with
      | zero => omega
      | succ levels =>
        have inside : Json.asListOf (SceneBlock.ofLevels? levels)
            (.array (SceneBlock.toItems children)) = some children := by
          rw [SceneBlock.toItems_eq_map]
          exact Json.asListOf_map (below levels (by omega))
        rw [SceneBlock.toJson, SceneBlock.ofLevels?, slots_object]
        · simp [inside]
        · rfl
        · decide
    · exact later levels enough.2 block others

@[simp] theorem SceneBlock.ofJson?_toJson (block : SceneBlock) :
    ofJson? block.toJson = some block := by
  refine SceneBlock.ofLevels?_toJson [block] _ ?_ block List.mem_cons_self
  simp [SceneBlock.toItems, Json.depthItems]

theorem SceneBlock.sized_toItems (blocks : List SceneBlock) :
    SizedItems (SceneBlock.toItems blocks) := by
  induction blocks using SceneBlock.induction with
  | nil => trivial
  | cons kind children rest below later =>
    refine ⟨?_, later⟩
    simp [SceneBlock.toJson, Sized, Json.SizedMembers, Kind.sized_toJson, below]

theorem SceneBlock.sized_toJson (block : SceneBlock) : Sized block.toJson :=
  (SceneBlock.sized_toItems [block]).1

namespace SceneActor

@[simp] theorem ofJson?_toJson (actor : SceneActor) : ofJson? actor.toJson = some actor := by
  have program : Json.asListOf SceneBlock.ofJson? (.array (SceneBlock.toItems actor.program)) =
      some actor.program := by
    rw [SceneBlock.toItems_eq_map]
    exact Json.asListOf_map fun block _ => SceneBlock.ofJson?_toJson block
  have color : Json.asNullable Json.asString (Json.ofOption Json.string actor.color) =
      some actor.color := by
    apply Json.asNullable_ofOption
    · exact fun _ => rfl
    · exact fun _ => nofun
  rw [toJson, ofJson?, slots_object]
  · simp [program, color, Json.asString]
  · rfl
  · decide

theorem sized_toJson (actor : SceneActor) : Sized actor.toJson := by
  have color : Sized (Json.ofOption Json.string actor.color) := by
    apply Json.sized_ofOption
    exact fun _ => trivial
  simp [toJson, Sized, Json.SizedMembers, Json.ofFloat, color, SceneBlock.sized_toItems]

end SceneActor

namespace Scene

@[simp] theorem ofJson?_toJson (scene : Scene) : ofJson? scene.toJson = some scene := by
  have actors : Json.asListOf SceneActor.ofJson? (.array (scene.actors.map SceneActor.toJson)) =
      some scene.actors := Json.asListOf_map fun actor _ => SceneActor.ofJson?_toJson actor
  rw [toJson, ofJson?, slots_object]
  · simp [actors]
  · rfl
  · decide

theorem sized_toJson (scene : Scene) : Sized scene.toJson := by
  have actors := Json.sizedItems_map fun actor (_ : actor ∈ scene.actors) =>
    SceneActor.sized_toJson actor
  simp [toJson, Sized, Json.SizedMembers, actors]

end Scene

end SpriteStage
