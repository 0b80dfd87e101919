import SpriteStage.Block.Forest
import SpriteStage.Table

namespace SpriteStage

/-!
# Progress

How far a run has come in every block, kept apart from the programs.  A row
belongs to an actor and a block.  It says whether the block is done, how many
rounds of its body are complete, and how many are due; the number due is
captured when the row is seeded.
-/

structure Entry where
  finished : Bool
  completed : Nat
  /-- The number of rounds due, for a block that holds others. -/
  target : Option Nat
  deriving DecidableEq

namespace Entry

def fresh (kind : Kind) : Entry := ⟨false, 0, kind.rounds?⟩

end Entry

structure Progress where
  entries : Table (ActorId × BlockId) Entry

namespace Progress

def empty : Progress := ⟨Table.empty⟩

instance : Inhabited Progress := ⟨empty⟩

def size (progress : Progress) : Nat := progress.entries.size

def get? (progress : Progress) (actor : ActorId) (block : BlockId) : Option Entry :=
  progress.entries.get? (actor, block)

def put (progress : Progress) (actor : ActorId) (block : BlockId) (entry : Entry) : Progress :=
  ⟨progress.entries.set (actor, block) entry⟩

mutual

def seedNode (actor : ActorId) : Block -> Progress -> Progress
  | ⟨id, kind, _, _, children⟩, progress =>
    seed actor children (progress.put actor id (Entry.fresh kind))

/-- Give every block of a forest a fresh entry, depth first. -/
def seed (actor : ActorId) : Forest -> Progress -> Progress
  | [], progress => progress
  | node :: rest, progress => seed actor rest (seedNode actor node progress)

end

def start (programs : List (ActorId × Forest)) : Progress :=
  programs.foldl (fun progress program => seed program.1 program.2 progress) empty

/-- The entry of a block, fresh if it has none. -/
def entryOf (progress : Progress) (actor : ActorId) (id : BlockId) (kind : Kind) : Entry :=
  (progress.get? actor id).getD (Entry.fresh kind)

def ensure (progress : Progress) (actor : ActorId) (id : BlockId) (kind : Kind) : Progress :=
  match progress.get? actor id with
  | some _ => progress
  | none => progress.put actor id (Entry.fresh kind)

/-- Whether a block is done.  A block without an entry is not. -/
def isFinished (progress : Progress) (actor : ActorId) (id : BlockId) : Bool :=
  match progress.get? actor id with
  | some entry => entry.finished
  | none => false

def markFinished (progress : Progress) (actor : ActorId) (id : BlockId) (kind : Kind) :
    Progress :=
  progress.put actor id { progress.entryOf actor id kind with finished := true }

/-- Count a round of the body of a block, and give the new count. -/
def completeRound (progress : Progress) (actor : ActorId) (id : BlockId) (kind : Kind) :
    Nat × Progress :=
  let entry := progress.entryOf actor id kind
  let completed := entry.completed + 1
  (completed, progress.put actor id { entry with completed := completed })

def forgetBlocks (progress : Progress) (actor : ActorId) (ids : List BlockId) : Progress :=
  ⟨progress.entries.filterKeys fun key => !(key.1 = actor && ids.contains key.2)⟩

def forget (progress : Progress) (actor : ActorId) : Progress :=
  ⟨progress.entries.filterKeys fun key => !decide (key.1 = actor)⟩

end Progress

end SpriteStage
