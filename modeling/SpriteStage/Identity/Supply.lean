import SpriteStage.Identity
import SpriteStage.Random.ChaCha

namespace SpriteStage

/-!
# Supplies of identifiers

Building a scene takes as many identifiers as it has actors and blocks.  A
supply numbers them.  One that comes from two random keys gives out random
identifiers in the usual layout, with their version and variant marked.
-/

/-- Identifiers that are still to be handed out, by number. -/
structure IdSupply where
  actor : Nat -> ActorId
  block : Nat -> BlockId

namespace IdSupply

/-- The identifier with four words as its bits, marked as random. -/
def randomUuid (first second third fourth : UInt32) : Uuid :=
  let marked := (second &&& 0xffff0fff) ||| 0x00004000
  let variant := (third &&& 0x3fffffff) ||| 0x80000000
  let join (high : Nat) (low : UInt32) : Nat := high * UInt32.size + low.toNat
  Uuid.ofNat (join (join (join first.toNat marked) variant) fourth)

/-- The random identifier of a number, from four words of a stream. -/
def uuidAt (key : Random.Key) (number : Nat) : Uuid :=
  let word (offset : Nat) : UInt32 := Random.streamWord key (4 * number + offset)
  randomUuid (word 0) (word 1) (word 2) (word 3)

/-- The supply that two keys select. -/
def ofKeys (actors blocks : Random.Key) : IdSupply :=
  ⟨fun number => ⟨uuidAt actors number⟩, fun number => ⟨uuidAt blocks number⟩⟩

end IdSupply

end SpriteStage
