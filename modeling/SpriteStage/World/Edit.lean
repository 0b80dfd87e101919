import SpriteStage.World

namespace SpriteStage

/-!
# Edits of a world

Edits change actors and programs, whether a run is active or not.  While one
is, a block that leaves the program of an actor leaves no progress behind.
Every edit hands back the world after it, also when it is refused, and the
result or the refusal.
-/

/-- The world after an edit, and what came of the edit. -/
structure Edited (Result : Type) where
  world : World
  outcome : Except Refusal Result

namespace Run

def forget (run : Run) (actor : ActorId) : Run :=
  { run with
    progress := run.progress.forget actor
    debounce := run.debounce.forget actor }

def forgetTree (run : Run) (actor : ActorId) (node : Block) : Run :=
  { run with progress := run.progress.forgetBlocks actor node.ids }

end Run

namespace World

variable {Result : Type}

/-- An edit that was refused and changed nothing. -/
def refused (world : World) (refusal : Refusal) : Edited Result := ⟨world, .error refusal⟩

def editCast (world : World) (edit : Except CastRefusal Cast) : Edited Unit :=
  match edit with
  | .ok cast => ⟨{ world with cast := cast }, .ok ()⟩
  | .error refusal => world.refused (.cast refusal)

def editPrograms (world : World) (result : Result) (edit : Except ProgramRefusal Programs) :
    Edited Result :=
  match edit with
  | .ok programs => ⟨{ world with programs := programs }, .ok result⟩
  | .error refusal => world.refused (.program refusal)

def spawn (world : World) (fresh : ActorId) : Except SpawnRefusal World :=
  (world.cast.spawn fresh).map fun cast => { world with cast := cast }

def rename (world : World) (id : ActorId) (name : String) : Edited Unit :=
  world.editCast (world.cast.rename id name)

/-- Place an actor; its baseline stays. -/
def place (world : World) (id : ActorId) (x y heading : Float) : Edited Unit :=
  world.editCast (world.cast.place id x y (some heading))

/-- Remove an actor with its program and everything that a run holds of it. -/
def dismiss (world : World) (id : ActorId) : Edited Actor :=
  match world.cast.remove id with
  | .error refusal => world.refused (.cast refusal)
  | .ok (actor, cast) =>
    ⟨{ world with
        cast := cast
        programs := world.programs.erase id
        run := world.run.map fun run => run.forget id },
      .ok actor⟩

/-- Insert a tree at the end of the program of an actor, or of the children of
a container in it. -/
def insert (world : World) (node : Block) (parent : Option BlockId) (actor : ActorId) :
    Edited BlockId :=
  if world.cast.contains actor then
    world.editPrograms node.id (world.programs.insert node parent actor)
  else world.refused (.cast (.noActor actor))

def remove (world : World) (id : BlockId) : Edited Block :=
  match world.programs.owner? id with
  | none => world.refused (.program (.noBlock id))
  | some owner =>
    match world.programs.remove id with
    | .error refusal => world.refused (.program refusal)
    | .ok (node, programs) =>
      ⟨{ world with
          programs := programs
          run := world.run.map fun run => run.forgetTree owner node },
        .ok node⟩

/-- Move a block with everything below it to another place.  Its progress
stays with it only within the program of one actor. -/
def move (world : World) (id : BlockId) (actor : ActorId) (parent : Option BlockId) :
    Edited Unit :=
  if world.cast.contains actor then
    match world.programs.owner? id with
    | none => world.refused (.program (.noBlock id))
    | some owner =>
      match world.programs.move id actor parent with
      | (programs, .error refusal) =>
        ⟨{ world with programs := programs }, .error (.program refusal)⟩
      | (programs, .ok ()) =>
        let moved := { world with programs := programs }
        match programs.find? id with
        | some node =>
          if owner = actor then ⟨moved, .ok ()⟩
          else ⟨{ moved with run := moved.run.map fun run => run.forgetTree owner node }, .ok ()⟩
        | none => ⟨moved, .ok ()⟩
  else world.refused (.cast (.noActor actor))

def adjust (world : World) (id : BlockId) (name : String) (value : Parameter) :
    Edited Unit :=
  world.editPrograms () (world.programs.adjust id name value)

end World

end SpriteStage
