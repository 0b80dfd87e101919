import SpriteStage.Proofs.Codec.Stage
import SpriteStage.Proofs.Json.Depth

namespace SpriteStage

/-!
# How deep programs are nested

Each level of blocks is an object inside a list, so a program is twice as deep
as data as it has levels, and a leaf adds its kind.  What bounds the depth of
data bounds the levels of programs, in both directions.
-/

mutual

/-- How many blocks of a tree are inside each other. -/
def Block.levels : Block -> Nat
  | ⟨_, _, _, _, children⟩ => 1 + Forest.levels children

def Forest.levels : Forest -> Nat
  | [] => 0
  | node :: rest => max node.levels (Forest.levels rest)

end

theorem Forest.levels_le {forest : Forest} {bound : Nat}
    (each : forall node, node ∈ forest -> node.levels ≤ bound) : Forest.levels forest ≤ bound := by
  induction forest with
  | nil => exact Nat.zero_le bound
  | cons node rest step =>
    exact Nat.max_le.2 ⟨each node List.mem_cons_self,
      step fun other inside => each other (List.mem_cons_of_mem _ inside)⟩

/-! ## From levels to depth -/

theorem Kind.depth_toJson (kind : Kind) : kind.toJson.depth = 2 := by
  rcases kind with ⟨_ | _ | _⟩ | ⟨_⟩ | ⟨_ | _⟩ <;> rfl

/-- A forest is at most twice as deep as data as it has levels, and one more. -/
theorem Forest.depthItems_toItems_le (forest : Forest) :
    Json.depthItems (Forest.toItems forest) ≤ 2 * Forest.levels forest + 1 := by
  induction forest using Forest.induction with
  | nil => exact Nat.zero_le _
  | cons id kind actor parent children rest below later =>
    have above : (Json.ofOption BlockId.toJson parent).depth = 0 := by cases parent <;> rfl
    have root : (Block.toJson ⟨id, kind, actor, parent, children⟩).depth ≤
        2 * (1 + Forest.levels children) + 1 := by
      simp only [Block.toJson, Json.depth, Json.depthMembers, ActorId.toJson, BlockId.toJson,
        Kind.depth_toJson, above]
      omega
    rw [Forest.toItems, Json.depthItems, Forest.levels, Block.levels]
    omega

theorem Json.depthItems_map_le {Item : Type} {encode : Item -> Json} {items : List Item}
    {bound : Nat} (each : forall item, item ∈ items -> (encode item).depth ≤ bound) :
    depthItems (items.map encode) ≤ bound := by
  induction items with
  | nil => exact Nat.zero_le bound
  | cons first rest step =>
    exact Nat.max_le.2 ⟨each first List.mem_cons_self,
      step fun item inside => each item (List.mem_cons_of_mem _ inside)⟩

theorem Actor.depth_toJson_le (actor : Actor) : actor.toJson.depth ≤ 2 := by
  have pose (pose : Pose) : pose.toJson.depth = 1 := rfl
  have speech : (Json.ofOption Speech.toJson actor.speech).depth ≤ 1 := by
    rcases actor.speech with _ | ⟨message, _ | seconds, spokenAt⟩
    · exact Nat.zero_le 1
    · exact Nat.le_refl 1
    · exact Nat.le_refl 1
  simp only [toJson, Json.depth, Json.depthMembers, ActorId.toJson, pose]
  omega

/-- A snapshot adds to the depth of its programs the brackets of two lists and
two objects. -/
theorem Snapshot.depth_toJson_le {snapshot : Snapshot} {levels : Nat}
    (shallow : forall program, program ∈ snapshot.programs ->
      Forest.levels program.blocks ≤ levels) : snapshot.toJson.depth ≤ 2 * levels + 5 := by
  have actors : Json.depthItems (snapshot.actors.map Actor.toJson) ≤ 2 :=
    Json.depthItems_map_le fun actor _ => actor.depth_toJson_le
  have programs : Json.depthItems (snapshot.programs.map OwnedProgram.toJson) ≤ 2 * levels + 3 := by
    apply Json.depthItems_map_le
    intro program inside
    have items := Forest.depthItems_toItems_le program.blocks
    have few := shallow program inside
    simp only [OwnedProgram.toJson, Json.depth, Json.depthMembers, ActorId.toJson]
    omega
  simp only [toJson, Json.depth, Json.depthMembers, Json.ofNat]
  omega

/-! ## From depth to levels -/

theorem Forest.levels_lt_of_asListOf {decode : Json -> Option Block} {value : Json}
    {forest : Forest} (read : value.asListOf decode = some forest)
    (each : forall {written node}, decode written = some node -> 2 * node.levels ≤ written.depth) :
    2 * Forest.levels forest < value.depth := by
  rcases Json.depth_lt_of_asListOf read with ⟨positive, items⟩
  have bound : Forest.levels forest ≤ (value.depth - 1) / 2 := by
    apply Forest.levels_le
    intro node inside
    rcases items node inside with ⟨written, own, less⟩
    have enough := each own
    omega
  omega

/-- A tree has at most half as many levels as the data that it is read from
is deep. -/
theorem Block.levels_le_of_ofLevels? (levels : Nat) :
    forall {value : Json} {node : Block}, Block.ofLevels? levels value = some node ->
      2 * node.levels ≤ value.depth := by
  induction levels with
  | zero => exact nofun
  | succ levels step =>
    intro value node read
    rw [Block.ofLevels?] at read
    rcases Option.bind_eq_some_iff.1 read with ⟨slots, split, read⟩
    split at read
    · rcases Option.bind_eq_some_iff.1 read with ⟨_, _, read⟩
      rcases Option.bind_eq_some_iff.1 read with ⟨_, _, read⟩
      rcases Option.bind_eq_some_iff.1 read with ⟨_, _, read⟩
      rcases Option.bind_eq_some_iff.1 read with ⟨_, _, read⟩
      rcases Option.bind_eq_some_iff.1 read with ⟨forest, inside, read⟩
      cases read
      rcases Json.Slot.exists_of_required inside with ⟨listed, rfl, inside⟩
      have outer : listed.depth < value.depth := Json.depth_lt_of_slots split (by simp)
      have inner := Forest.levels_lt_of_asListOf inside step
      rw [Block.levels]
      omega
    · cases read

/-- The same for the program of an actor, which is written inside an object. -/
theorem OwnedProgram.levels_le_of_ofJson? {value : Json} {program : OwnedProgram}
    (read : ofJson? value = some program) :
    2 * Forest.levels program.blocks + 1 < value.depth := by
  rcases Option.bind_eq_some_iff.1 read with ⟨slots, split, read⟩
  split at read
  · rcases Option.bind_eq_some_iff.1 read with ⟨_, _, read⟩
    rcases Option.bind_eq_some_iff.1 read with ⟨forest, inside, read⟩
    cases read
    rcases Json.Slot.exists_of_required inside with ⟨listed, rfl, inside⟩
    have outer : listed.depth < value.depth := Json.depth_lt_of_slots split (by simp)
    have inner := Forest.levels_lt_of_asListOf inside fun own => Block.levels_le_of_ofLevels? _ own
    dsimp only
    omega
  · cases read

/-- The same for each program of a snapshot, which is written inside a list
inside an object. -/
theorem Snapshot.levels_le_of_ofJson? {value : Json} {snapshot : Snapshot}
    (read : ofJson? value = some snapshot) : forall program, program ∈ snapshot.programs ->
      2 * Forest.levels program.blocks + 3 < value.depth := by
  rcases Option.bind_eq_some_iff.1 read with ⟨slots, split, read⟩
  split at read
  · rcases Option.bind_eq_some_iff.1 read with ⟨_, _, read⟩
    rcases Option.bind_eq_some_iff.1 read with ⟨_, _, read⟩
    rcases Option.bind_eq_some_iff.1 read with ⟨programs, inside, read⟩
    rcases Option.bind_eq_some_iff.1 read with ⟨_, _, read⟩
    cases read
    rcases Json.Slot.exists_of_required inside with ⟨listed, rfl, inside⟩
    have outer : listed.depth < value.depth := Json.depth_lt_of_slots split (by simp)
    intro program member
    rcases (Json.depth_lt_of_asListOf inside).2 program member with ⟨written, own, less⟩
    have inner := OwnedProgram.levels_le_of_ofJson? own
    omega
  · cases read

end SpriteStage
