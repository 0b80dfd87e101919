import SpriteStage.Proofs.Identity.Text
import SpriteStage.Proofs.Json.Fields

namespace SpriteStage

open Json (slots_object variant?_object Sized SizedItems)

/-!
# Blocks survive as data

Reading undoes writing for identifiers, parameters, kinds and trees.  A kind
is split twice, by its family and by its action, and each family reads back
the fields of its own actions.
-/

@[simp] theorem ActorId.ofJson?_toJson (id : ActorId) : ofJson? id.toJson = some id := by
  rw [ofJson?, toJson, Json.asString, Option.bind_some, ofText?_toText]

@[simp] theorem BlockId.ofJson?_toJson (id : BlockId) : ofJson? id.toJson = some id := by
  rw [ofJson?, toJson, Json.asString, Option.bind_some, ofText?_toText]

@[simp] theorem Parameter.ofJson?_toJson (parameter : Parameter) :
    ofJson? parameter.toJson = some parameter := by
  cases parameter <;> rfl

theorem Parameter.sized_toJson (parameter : Parameter) : Sized parameter.toJson := by
  cases parameter <;> trivial

/-! ## Kinds -/

/-- Whether a written command is split into the name of its action and a
record from which the reader of its family makes the command again. -/
def Kind.Splits {Command : Type} (ofFields? : String -> Json -> Option Command) (written : Json)
    (command : Command) : Prop :=
  Exists fun action => Exists fun fields =>
    written.variant? "action" = some ⟨.string action, fields⟩ ∧
      ofFields? action fields = some command

theorem Motion.splits (command : Motion) : Kind.Splits ofFields? command.toJson command := by
  cases command with
  | move steps =>
    refine ⟨"move", _, variant?_object ["steps"] rfl rfl (by decide), ?_⟩
    rw [ofFields?, slots_object]
    · rfl
    · rfl
    · decide
  | turn degrees =>
    refine ⟨"turn", _, variant?_object ["degrees"] rfl rfl (by decide), ?_⟩
    rw [ofFields?, slots_object]
    · rfl
    · rfl
    · decide
  | goTo x y =>
    refine ⟨"go_to", _, variant?_object ["x", "y"] rfl rfl (by decide), ?_⟩
    rw [ofFields?, slots_object]
    · rfl
    · rfl
    · decide

theorem Control.splits (command : Control) : Kind.Splits ofFields? command.toJson command := by
  cases command with
  | times count =>
    refine ⟨"repeat", _, variant?_object ["repeatCount"] rfl rfl (by decide), ?_⟩
    rw [ofFields?, slots_object]
    · simp [Json.Slot.required]
    · rfl
    · decide

theorem Look.splits (command : Look) : Kind.Splits ofFields? command.toJson command := by
  cases command with
  | say message =>
    refine ⟨"say", _, variant?_object ["message"] rfl rfl (by decide), ?_⟩
    rw [ofFields?, slots_object]
    · rfl
    · rfl
    · decide
  | sayFor message seconds =>
    refine ⟨"say_for_seconds", _, variant?_object ["message", "seconds"] rfl rfl (by decide), ?_⟩
    rw [ofFields?, slots_object]
    · rfl
    · rfl
    · decide

namespace Kind

theorem ofJson?_object (family : String) (block : Json) :
    ofJson? (.object [("family", .string family), ("block", block)]) =
      ofParts? false (.string family) block := rfl

@[simp] theorem ofJson?_toJson (kind : Kind) : ofJson? kind.toJson = some kind := by
  cases kind with
  | motion command =>
    rcases Motion.splits command with ⟨action, fields, split, read⟩
    rw [toJson, ofJson?_object]
    simp [ofParts?, familyOf?, split, actionOf?, read]
  | control command =>
    rcases Control.splits command with ⟨action, fields, split, read⟩
    rw [toJson, ofJson?_object]
    simp [ofParts?, familyOf?, split, actionOf?, read]
  | look command =>
    rcases Look.splits command with ⟨action, fields, split, read⟩
    rw [toJson, ofJson?_object]
    simp [ofParts?, familyOf?, split, actionOf?, read]

theorem sized_toJson (kind : Kind) : Sized kind.toJson := by
  have count (value : Int64) : Json.IsInteger value.toInt := by
    have least := value.minValue_le_toInt
    have most := value.toInt_lt
    refine ⟨least, Int.lt_trans most ?_⟩
    decide
  rcases kind with ⟨_ | _ | _⟩ | ⟨value⟩ | ⟨_ | _⟩ <;>
    simp [toJson, Motion.toJson, Control.toJson, Look.toJson, Sized, Json.SizedMembers,
      Json.ofFloat, count]

end Kind

/-! ## Trees -/

theorem Forest.toItems_eq_map (forest : Forest) :
    Forest.toItems forest = forest.map Block.toJson := by
  induction forest with
  | nil => rfl
  | cons node rest step => rw [Forest.toItems, step, List.map_cons]

/-- The trees of a forest are read back with as many levels as it is deep. -/
theorem Forest.ofLevels?_toJson (forest : Forest) : forall levels : Nat,
    Json.depthItems (Forest.toItems forest) ≤ levels ->
      forall node, node ∈ forest -> Block.ofLevels? levels node.toJson = some node := by
  induction forest using Forest.induction with
  | nil => exact fun _ _ _ member => absurd member List.not_mem_nil
  | cons id kind actor parent children rest below later =>
    intro levels enough node member
    rw [Forest.toItems, Json.depthItems, Nat.max_le] at enough
    rcases List.mem_cons.1 member with rfl | others
    · -- The object of the tree and the list of its children leave a level for each child.
      have room := enough.1
      simp only [Block.toJson, Json.depth, Json.depthMembers] at room
      cases levels with
      | zero => omega
      | succ levels =>
        have inside : Json.asListOf (Block.ofLevels? levels) (.array (Forest.toItems children)) =
            some children := by
          rw [Forest.toItems_eq_map]
          exact Json.asListOf_map (below levels (by omega))
        have above : Json.asNullable BlockId.ofJson? (Json.ofOption BlockId.toJson parent) =
            some parent :=
          Json.asNullable_ofOption BlockId.ofJson?_toJson (fun _ => nofun) parent
        rw [Block.toJson, Block.ofLevels?, slots_object]
        · simp [inside, above]
        · rfl
        · decide
    · exact later levels enough.2 node others

@[simp] theorem Block.ofJson?_toJson (node : Block) : ofJson? node.toJson = some node := by
  refine Forest.ofLevels?_toJson [node] _ ?_ node List.mem_cons_self
  simp [Forest.toItems, Json.depthItems]

theorem Forest.sized_toItems (forest : Forest) : SizedItems (Forest.toItems forest) := by
  induction forest using Forest.induction with
  | nil => trivial
  | cons id kind actor parent children rest below later =>
    refine ⟨?_, later⟩
    rw [Block.toJson]
    cases parent <;>
      simp [Sized, Json.SizedMembers, ActorId.toJson, BlockId.toJson, Json.ofOption,
        Kind.sized_toJson, below]

theorem Block.sized_toJson (node : Block) : Sized node.toJson :=
  (Forest.sized_toItems [node]).1

end SpriteStage
