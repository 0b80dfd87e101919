import SpriteStage.Block.Forest
import SpriteStage.Table

namespace SpriteStage

/-!
# The program store

Every actor owns a forest of blocks, its program.  The store keeps the forests
and edits them: blocks are inserted, removed and moved with everything below
them, parameters are set, and two actors can exchange their programs.

A move is a removal followed by an insertion at the end of the destination.
All refusals that do not depend on the removal are settled before it.
-/

/-- The programs of all actors.  An actor without a row has no blocks. -/
structure Programs where
  forests : Table ActorId Forest

namespace Programs

def empty : Programs := ⟨Table.empty⟩

instance : Inhabited Programs := ⟨empty⟩

def forest (store : Programs) (actor : ActorId) : Forest := (store.forests.get? actor).getD []

def isProgrammed (store : Programs) (actor : ActorId) : Bool := !(store.forest actor).isEmpty

def withForest (store : Programs) (actor : ActorId) (forest : Forest) : Programs :=
  ⟨store.forests.set actor forest⟩

def programs (store : Programs) : List (ActorId × Forest) :=
  store.forests.rows.filter fun row => !row.2.isEmpty

def blockCount (store : Programs) : Nat :=
  store.forests.rows.foldr (fun row count => Forest.count row.2 + count) 0

def locate (store : Programs) (id : BlockId) : Option (ActorId × Block) :=
  store.forests.rows.findSome? fun row => (Forest.find? id row.2).map fun node => (row.1, node)

def find? (store : Programs) (id : BlockId) : Option Block := (store.locate id).map Prod.snd

def owner? (store : Programs) (id : BlockId) : Option ActorId :=
  (store.locate id).map Prod.fst

def holds (store : Programs) (id : BlockId) : Bool := (store.locate id).isSome

def updated (forest : Forest) (id : BlockId) (change : Block -> Block) : Forest :=
  (Forest.modify? id change forest).getD forest

/-- Append a tree to the program of an actor, or to the children of a
container in that program.  No block of the tree may be placed already. -/
def insert (store : Programs) (node : Block) (parent : Option BlockId) (actor : ActorId) :
    Except ProgramRefusal Programs :=
  match node.ids.find? store.holds with
  | some existing => .error (.taken existing)
  | none =>
    let placed := node.relabel actor parent
    let program := store.forest actor
    match parent with
    | none => .ok (store.withForest actor (program ++ [placed]))
    | some above =>
      match Forest.find? above program with
      | none => .error (.noParent above actor)
      | some target =>
        if target.kind.holdsBlocks then
          .ok (store.withForest actor (updated program above fun node => node.adopt placed))
        else .error (.noContainer above)

/-- Take a block with everything below it out of the program it is in. -/
def remove (store : Programs) (id : BlockId) : Except ProgramRefusal (Block × Programs) :=
  let found := store.forests.rows.findSome? fun row =>
    (Forest.take? id row.2).map fun taken => (row.1, taken)
  match found with
  | some (actor, taken, left) => .ok (taken, store.withForest actor left)
  | none => .error (.noBlock id)

/-- Why a block cannot be moved to a parent in the program of an actor, as far
as that shows before the move. -/
def moveRefusal? (store : Programs) (block : Block) (actor : ActorId)
    (parent : Option BlockId) : Option ProgramRefusal :=
  match parent with
  | none => none
  | some above =>
    if block.contains above then some (.cycle block.id above)
    else
      match Forest.find? above (store.forest actor) with
      | none => some (.noParent above actor)
      | some target => if target.kind.holdsBlocks then none else some (.noContainer above)

/-- Move a block to the end of the program of an actor, or of the children of
a container in that program.  The store is handed back also when the move
fails, because an insertion that is refused after the removal leaves the block
out. -/
def move (store : Programs) (id : BlockId) (actor : ActorId) (parent : Option BlockId) :
    Programs × Except ProgramRefusal Unit :=
  match store.locate id with
  | none => (store, .error (.noBlock id))
  | some (_, block) =>
    match store.moveRefusal? block actor parent with
    | some refusal => (store, .error refusal)
    | none =>
      match store.remove id with
      | .error refusal => (store, .error refusal)
      | .ok (taken, without) =>
        match without.insert taken parent actor with
        | .ok moved => (moved, .ok ())
        | .error refusal => (without, .error refusal)

def adjust (store : Programs) (id : BlockId) (name : String) (value : Parameter) :
    Except ProgramRefusal Programs :=
  match store.locate id with
  | none => .error (.noBlock id)
  | some (owner, block) =>
    match block.kind.set name value with
    | .error refusal => .error refusal
    | .ok kind =>
      .ok (store.withForest owner
        (updated (store.forest owner) id fun node => node.withKind kind))

def exchange (store : Programs) (first second : ActorId) : Programs :=
  if first = second then store
  else
    (store.withForest first (Forest.relabel first none (store.forest second))).withForest second
      (Forest.relabel second none (store.forest first))

def erase (store : Programs) (actor : ActorId) : Programs :=
  ⟨store.forests.erase actor⟩

end Programs

end SpriteStage
