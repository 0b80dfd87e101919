import SpriteStage.Block.Kind

namespace SpriteStage

/-!
# Block trees

A program is a forest: a list of blocks, each with its own list of children.
A block names its owner and its parent, so that it can be placed without
looking for it.  Searches go depth first, a block before its children and a
child before the next one; only taking a block out tries all blocks of one
list before it looks inside them.
-/

/-- One block with everything below it. -/
structure Block where
  id : BlockId
  kind : Kind
  /-- The actor whose program holds the block. -/
  actor : ActorId
  /-- The block that holds this one; there is none at the top level. -/
  parent : Option BlockId
  children : List Block

abbrev Forest := List Block

/-- Induction over a forest: into the children of its first block, and over
the rest of it. -/
theorem Forest.induction {motive : Forest -> Prop} (nil : motive [])
    (cons : forall id kind actor parent children rest, motive children -> motive rest ->
      motive (⟨id, kind, actor, parent, children⟩ :: rest))
    (forest : Forest) : motive forest :=
  Block.rec_1
    (motive_1 := fun node => forall rest, motive rest -> motive (node :: rest))
    (motive_2 := motive)
    (fun id kind actor parent children below rest step =>
      cons id kind actor parent children rest below step)
    nil (fun _ rest below step => below rest step) forest

mutual

def Block.count : Block -> Nat
  | ⟨_, _, _, _, children⟩ => 1 + Forest.count children

def Forest.count : Forest -> Nat
  | [] => 0
  | node :: rest => node.count + Forest.count rest

end

mutual

/-- The identifiers of a tree, depth first. -/
def Block.ids : Block -> List BlockId
  | ⟨id, _, _, _, children⟩ => id :: Forest.ids children

def Forest.ids : Forest -> List BlockId
  | [] => []
  | node :: rest => node.ids ++ Forest.ids rest

end

mutual

def Block.find? (wanted : BlockId) : Block -> Option Block
  | ⟨id, kind, actor, parent, children⟩ =>
    if id = wanted then some ⟨id, kind, actor, parent, children⟩
    else Forest.find? wanted children

def Forest.find? (wanted : BlockId) : Forest -> Option Block
  | [] => none
  | node :: rest =>
    match node.find? wanted with
    | some found => some found
    | none => Forest.find? wanted rest

end

def Block.contains (node : Block) (wanted : BlockId) : Bool := (node.find? wanted).isSome

mutual

/-- Set the owner of a tree and the parent of its root. -/
def Block.relabel (owner : ActorId) (above : Option BlockId) : Block -> Block
  | ⟨id, kind, _, _, children⟩ => ⟨id, kind, owner, above, Forest.relabel owner (some id) children⟩

def Forest.relabel (owner : ActorId) (above : Option BlockId) : Forest -> Forest
  | [] => []
  | node :: rest => node.relabel owner above :: Forest.relabel owner above rest

end

mutual

/-- Change the first block of a tree with an identifier, if there is one. -/
def Block.modify? (wanted : BlockId) (change : Block -> Block) :
    Block -> Option Block
  | ⟨id, kind, actor, parent, children⟩ =>
    if id = wanted then some (change ⟨id, kind, actor, parent, children⟩)
    else (Forest.modify? wanted change children).map fun changed =>
      ⟨id, kind, actor, parent, changed⟩

def Forest.modify? (wanted : BlockId) (change : Block -> Block) : Forest -> Option Forest
  | [] => none
  | node :: rest =>
    match node.modify? wanted change with
    | some changed => some (changed :: rest)
    | none => (Forest.modify? wanted change rest).map (node :: ·)

end

/-- Take the first block with an identifier out of a sequence, without looking
inside its blocks. -/
def Forest.pick? (wanted : BlockId) : Forest -> Option (Block × Forest)
  | [] => none
  | node :: rest =>
    if node.id = wanted then some (node, rest)
    else (Forest.pick? wanted rest).map fun found => (found.1, node :: found.2)

mutual

/-- Take a block out of what lies below a block. -/
def Block.takeBelow? (wanted : BlockId) : Block -> Option (Block × Block)
  | ⟨id, kind, actor, parent, children⟩ =>
    match Forest.pick? wanted children with
    | some (taken, left) => some (taken, ⟨id, kind, actor, parent, left⟩)
    | none =>
      (Forest.takeBelow? wanted children).map fun found =>
        (found.1, ⟨id, kind, actor, parent, found.2⟩)

def Forest.takeBelow? (wanted : BlockId) : Forest -> Option (Block × Forest)
  | [] => none
  | node :: rest =>
    match node.takeBelow? wanted with
    | some (taken, left) => some (taken, left :: rest)
    | none => (Forest.takeBelow? wanted rest).map fun found => (found.1, node :: found.2)

end

/-- Take a block out of a forest, from the sequence itself or from below it. -/
def Forest.take? (wanted : BlockId) (forest : Forest) : Option (Block × Forest) :=
  match Forest.pick? wanted forest with
  | some found => some found
  | none => Forest.takeBelow? wanted forest

namespace Block

/-- A block that is not placed anywhere yet. -/
def unplaced (id : BlockId) (kind : Kind) : Block :=
  ⟨id, kind, ActorId.nobody, none, []⟩

/-- The block with one more child, which comes last. -/
def adopt (node child : Block) : Block :=
  { node with children := node.children ++ [child] }

def identified (node : Block) (id : BlockId) : Block := { node with id := id }

def withKind (node : Block) (kind : Kind) : Block := { node with kind := kind }

end Block

end SpriteStage
