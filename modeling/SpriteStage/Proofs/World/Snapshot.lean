import SpriteStage.Proofs.Codec.Depth
import SpriteStage.Proofs.Codec.Format
import SpriteStage.Proofs.Codec.Legible
import SpriteStage.Proofs.World.History

namespace SpriteStage

open Json (ReadsBack nestingLimit)

/-!
# Snapshots that are read back

What stands in the way of reading the text of a snapshot is the nesting of
programs, to which edits set no limit, and doubles that are not read back from
their digits, among them those that a run drove out of the range of doubles.
-/

/-- How many blocks may be inside each other in a program of a snapshot that
is read back. -/
def Snapshot.levelLimit : Nat := 61

/-- Whatever the text is, no snapshot with more levels is read from it. -/
theorem Snapshot.levels_le_of_read? {text : String} {snapshot : Snapshot}
    (read : Format.snapshot.read? text = some snapshot) :
    forall program, program ∈ snapshot.programs -> Forest.levels program.blocks ≤ levelLimit := by
  intro program inside
  rcases Option.bind_eq_some_iff.1 read with ⟨value, written, decoded⟩
  have shallow := Json.depth_le_of_ofText? written
  have few := Snapshot.levels_le_of_ofJson? decoded program inside
  rw [nestingLimit] at shallow
  rw [levelLimit]
  omega

namespace World

/-- A snapshot is read back if and only if no program has too many blocks
inside each other and each double is read back from its digits.

The world is any world, whether or not it can be reached.  Of its levels only
those of the programs count, as all other parts of a snapshot are flat. -/
theorem snapshot_is_read_iff (world : World) (counted : world.blockCount < UInt64.size) :
    Format.snapshot.read? (Format.snapshot.write world.snapshot) = some world.snapshot <->
      (forall actor, actor ∈ world.cast.actors ->
        Forest.levels (world.programs.forest actor.id) ≤ Snapshot.levelLimit) ∧
      forall double, double ∈ world.snapshot.toJson.reals -> ReadsBack double := by
  have sized := Snapshot.sized_toJson world.snapshot counted
  have written := Json.ofText?_toText sized
  constructor
  · intro read
    constructor
    · intro actor inside
      exact Snapshot.levels_le_of_read? read _ (List.mem_map_of_mem inside)
    · rcases Option.bind_eq_some_iff.1 read with ⟨value, same, decoded⟩
      cases written.symm.trans same
      exact world.snapshot.legible nestingLimit decoded
  · rintro ⟨few, legible⟩
    have shallow : world.snapshot.toJson.depth ≤ 2 * Snapshot.levelLimit + 5 := by
      apply Snapshot.depth_toJson_le
      intro program inside
      rcases List.mem_map.1 inside with ⟨actor, member, rfl⟩
      exact few actor member
    have kept := Json.reread_eq_self nestingLimit world.snapshot.toJson shallow legible
    have decoded := Snapshot.ofJson?_toJson world.snapshot counted
    exact Option.bind_eq_some_iff.2 ⟨_, kept ▸ written, decoded⟩

section Sample

def sampleStage : World :=
  World.standard ⟨Uuid.ofNat 1⟩ ⟨Uuid.ofNat 2⟩ Settings.standard 0

/-- A loop around a number of loops inside each other. -/
def sampleTower : Nat -> Block
  | 0 => ⟨⟨Uuid.ofNat 0⟩, .control (.times 2), .nobody, none, []⟩
  | inside + 1 =>
    ⟨⟨Uuid.ofNat (inside + 1)⟩, .control (.times 2), .nobody, none, [sampleTower inside]⟩

theorem nested_sampleTower (inside : Nat) : Forest.Nested [sampleTower inside] := by
  induction inside with
  | zero => simp [sampleTower, Forest.nested_cons, Forest.nested_nil]
  | succ inside step =>
    rw [sampleTower, Forest.nested_cons]
    exact ⟨fun _ => rfl, step, Forest.nested_nil⟩

def sampleStairs : List Operation := [.insert (sampleTower 60) none ⟨Uuid.ofNat 1⟩]

theorem sampleStairs_is_read :
    (sampleStage.after sampleStairs).blockCount < UInt64.size ∧
      Format.snapshot.read? (Format.snapshot.write (sampleStage.after sampleStairs).snapshot) =
        some (sampleStage.after sampleStairs).snapshot := by
  have counted : (sampleStage.after sampleStairs).blockCount < UInt64.size := by decide +kernel
  have few : forall actor, actor ∈ (sampleStage.after sampleStairs).cast.actors ->
      Forest.levels ((sampleStage.after sampleStairs).programs.forest actor.id) ≤
        Snapshot.levelLimit := by decide +kernel
  have legible : forall double, double ∈ (sampleStage.after sampleStairs).snapshot.toJson.reals ->
      ReadsBack double := by decide +kernel
  exact ⟨counted, (snapshot_is_read_iff _ counted).2 ⟨few, legible⟩⟩

def sampleClimb : List Operation := [.insert (sampleTower 61) none ⟨Uuid.ofNat 1⟩]

def sampleStride : List Operation := [.place ⟨Uuid.ofNat 1⟩ 123456789.12345679 0.0 90.0]

theorem sampleClimb_is_not_read :
    Format.snapshot.read? (Format.snapshot.write (sampleStage.after sampleClimb).snapshot) ≠
      some (sampleStage.after sampleClimb).snapshot := by
  intro read
  have first : (⟨⟨Uuid.ofNat 1⟩, (sampleStage.after sampleClimb).programs.forest ⟨Uuid.ofNat 1⟩⟩ :
      OwnedProgram) ∈ (sampleStage.after sampleClimb).snapshot.programs := List.mem_cons_self
  have few := Snapshot.levels_le_of_read? read _ first
  revert few
  decide +kernel

theorem sampleStride_is_not_read :
    Format.snapshot.read? (Format.snapshot.write (sampleStage.after sampleStride).snapshot) ≠
      some (sampleStage.after sampleStride).snapshot := by
  intro read
  have elsewhere : ((Json.ofChars? (sampleStage.after sampleStride).snapshot.toJson.chars).bind
      Snapshot.ofJson?).map Snapshot.actors ≠ some (sampleStage.after sampleStride).cast.actors := by
    decide +kernel
  have parsed := (Format.read?_write .snapshot _).symm.trans read
  exact elsewhere (congrArg (Option.map Snapshot.actors) parsed)

/-- Two ways in which a stage that was reached with finite numbers leaves a
snapshot that is not read back: too many levels, and a double that its digits
miss. -/
theorem some_reached_snapshots_are_not_read :
    Created sampleStage ∧
      (sampleStage.Allows sampleClimb ∧
        Format.snapshot.read? (Format.snapshot.write (sampleStage.after sampleClimb).snapshot) ≠
          some (sampleStage.after sampleClimb).snapshot) ∧
      (sampleStage.Allows sampleStride ∧ (123456789.12345679 : Float).isFinite = true ∧
        Format.snapshot.read? (Format.snapshot.write (sampleStage.after sampleStride).snapshot) ≠
          some (sampleStage.after sampleStride).snapshot) := by
  have created : Created sampleStage := .standard _ _ _ _ (by decide)
  have distinct : (sampleTower 61).ids.Nodup := by decide +kernel
  have finite : (123456789.12345679 : Float).isFinite = true := by decide +kernel
  exact ⟨created, ⟨⟨⟨distinct, nested_sampleTower 61⟩, trivial⟩, sampleClimb_is_not_read⟩,
    ⟨⟨trivial, trivial⟩, finite, sampleStride_is_not_read⟩⟩

end Sample

end World

end SpriteStage
