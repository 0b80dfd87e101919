import SpriteStage.Scene

namespace SpriteStage

/-!
# The blocks of a scene

A program of a scene is a forest before it is placed: it has no identifiers,
owners and parents.  Listed depth first, its blocks come in the order in which
they are placed and numbered.  A block that has children although its kind
holds none is a misfit, and no scene with a misfit can be built.
-/

/-- Induction over the blocks of a sequence: into the children of the first
one, and over the rest. -/
theorem SceneBlock.induction {motive : List SceneBlock -> Prop} (nil : motive [])
    (cons : forall kind children rest, motive children -> motive rest ->
      motive (⟨kind, children⟩ :: rest))
    (blocks : List SceneBlock) : motive blocks :=
  SceneBlock.rec_1
    (motive_1 := fun block => forall rest, motive rest -> motive (block :: rest))
    (motive_2 := motive)
    (fun kind children below rest step => cons kind children rest below step)
    nil (fun _ rest below step => below rest step) blocks

mutual

/-- The blocks of a tree of a scene, depth first. -/
def SceneBlock.nodes : SceneBlock -> List SceneBlock
  | ⟨kind, children⟩ => ⟨kind, children⟩ :: SceneBlock.nodesAll children

def SceneBlock.nodesAll : List SceneBlock -> List SceneBlock
  | [] => []
  | block :: rest => block.nodes ++ SceneBlock.nodesAll rest

end

/-- Whether a block has children although its kind holds none. -/
def SceneBlock.isMisfit (block : SceneBlock) : Bool :=
  !block.children.isEmpty && !block.kind.holdsBlocks

mutual

/-- The tree without identifiers, owners and parents. -/
def Block.bare : Block -> SceneBlock
  | ⟨_, kind, _, _, children⟩ => ⟨kind, Forest.bare children⟩

def Forest.bare : Forest -> List SceneBlock
  | [] => []
  | node :: rest => node.bare :: Forest.bare rest

end

namespace SceneBlock

theorem nodesAll_cons (kind : Kind) (children rest : List SceneBlock) :
    nodesAll (⟨kind, children⟩ :: rest) =
      ⟨kind, children⟩ :: (nodesAll children ++ nodesAll rest) := rfl

theorem isMisfit_eq_false_iff {block : SceneBlock} :
    block.isMisfit = false <-> (block.children ≠ [] -> block.kind.holdsBlocks = true) := by
  rw [isMisfit, Bool.and_eq_false_imp, Bool.not_eq_true', List.isEmpty_eq_false_iff,
    Bool.not_eq_false']

end SceneBlock

theorem Forest.bare_append (first second : Forest) :
    bare (first ++ second) = bare first ++ bare second := by
  induction first with
  | nil => rfl
  | cons node rest step => rw [List.cons_append, bare, bare, step, List.cons_append]

theorem Forest.length_nodesAll_bare (forest : Forest) :
    (SceneBlock.nodesAll (bare forest)).length = count forest := by
  induction forest using Forest.induction with
  | nil => rfl
  | cons id kind actor parent children rest below after =>
    rw [bare, Block.bare, SceneBlock.nodesAll_cons, List.length_cons, List.length_append, below,
      after, count, Block.count, Nat.add_comm 1, Nat.succ_add]

namespace Scene

def nodes (scene : Scene) : List SceneBlock :=
  scene.actors.flatMap fun actor => SceneBlock.nodesAll actor.program

/-- No block of a kind that holds none has children. -/
def Nested (scene : Scene) : Prop :=
  forall block, block ∈ scene.nodes -> block.children ≠ [] -> block.kind.holdsBlocks = true

theorem nested_iff_findIdx? {scene : Scene} :
    scene.Nested <-> scene.nodes.findIdx? SceneBlock.isMisfit = none := by
  simp only [Nested, List.findIdx?_eq_none_iff, SceneBlock.isMisfit_eq_false_iff]

end Scene

end SpriteStage
