import SpriteStage.Proofs.Block.Pruning

namespace SpriteStage

/-!
# The blocks of a forest one by one

A forest is listed depth first, each block without its children.  What a block
says of itself and the order of the blocks are all there, and in a placed
forest the parents tell which are the children of which.  Taking a tree out
takes its blocks out of the list, and the others stay as they are and in
order.
-/

def Block.alone (node : Block) : Block := { node with children := [] }

namespace Forest

variable {wanted : BlockId} {taken : List BlockId} {node : Block} {forest : Forest}

end Forest

end SpriteStage
