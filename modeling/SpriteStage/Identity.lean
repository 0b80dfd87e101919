namespace SpriteStage

/-!
# Identifiers

Actors and blocks are named by 128-bit universally unique identifiers.  The
two uses have types of their own, so that one cannot stand in for the other.
Identifiers are compared as the big-endian numbers they spell.  Nothing here
draws an identifier: fresh ones are handed in by the caller.
-/

structure Uuid where
  bits : BitVec 128
  deriving DecidableEq

namespace Uuid

def nil : Uuid := ⟨0⟩

instance : Inhabited Uuid := ⟨nil⟩

/-- The number that the bits spell, most significant first. -/
def toNat (uuid : Uuid) : Nat := uuid.bits.toNat

/-- The identifier whose bits spell a number; higher bits are cut off. -/
def ofNat (number : Nat) : Uuid := ⟨BitVec.ofNat 128 number⟩

@[simp] theorem ofNat_toNat (uuid : Uuid) : ofNat uuid.toNat = uuid := by
  obtain ⟨bits⟩ := uuid
  simp [ofNat, toNat]

end Uuid

structure ActorId where
  uuid : Uuid
  deriving DecidableEq, Inhabited

namespace ActorId

/-- The identifier that no placed actor carries: the owner of an unplaced block. -/
def nobody : ActorId := ⟨Uuid.nil⟩

instance : LE ActorId := ⟨fun first second => first.uuid.toNat ≤ second.uuid.toNat⟩

instance : LT ActorId := ⟨fun first second => first.uuid.toNat < second.uuid.toNat⟩

instance (first second : ActorId) : Decidable (first ≤ second) :=
  inferInstanceAs (Decidable (first.uuid.toNat ≤ second.uuid.toNat))

instance (first second : ActorId) : Decidable (first < second) :=
  inferInstanceAs (Decidable (first.uuid.toNat < second.uuid.toNat))

end ActorId

/-- The name of a block.  It stays with the block through moves and exchanges. -/
structure BlockId where
  uuid : Uuid
  deriving DecidableEq, Inhabited

end SpriteStage
