import Mathlib.Data.List.Nodup
import SpriteStage.Block.Forest

namespace SpriteStage

/-!
# The blocks of a forest

A forest is listed block by block, depth first.  Searching it is searching
the list, and its identifiers are those of the list.  What a run has to know
of a block is only its identifier and its kind; `Forest.kinds` lists these
two, so that edits which keep them are seen to keep them at a glance.
-/

mutual

def Block.nodes : Block -> List Block
  | ⟨id, kind, actor, parent, children⟩ =>
    ⟨id, kind, actor, parent, children⟩ :: Forest.nodes children

def Forest.nodes : Forest -> List Block
  | [] => []
  | node :: rest => node.nodes ++ Forest.nodes rest

end

/-- The identifiers of a forest with the kinds of their blocks, depth first. -/
def Forest.kinds (forest : Forest) : List (BlockId × Kind) :=
  (Forest.nodes forest).map fun node => (node.id, node.kind)

namespace Forest

@[simp] theorem nodes_nil : nodes [] = [] := rfl

@[simp] theorem nodes_cons (node : Block) (rest : Forest) :
    nodes (node :: rest) = node :: (nodes node.children ++ nodes rest) := by
  rcases node with ⟨id, kind, actor, parent, children⟩
  rfl

@[simp] theorem ids_nil : ids [] = [] := rfl

@[simp] theorem ids_cons (node : Block) (rest : Forest) :
    ids (node :: rest) = node.id :: (ids node.children ++ ids rest) := by
  rcases node with ⟨id, kind, actor, parent, children⟩
  rfl

@[simp] theorem nodes_append (first second : Forest) :
    nodes (first ++ second) = nodes first ++ nodes second := by
  induction first with
  | nil => rfl
  | cons node rest step => simp [step]

theorem ids_eq_map (forest : Forest) : ids forest = (nodes forest).map Block.id := by
  induction forest using Forest.induction with
  | nil => rfl
  | cons id kind actor parent children rest below after => simp [below, after]

theorem ids_append (first second : Forest) : ids (first ++ second) = ids first ++ ids second := by
  rw [ids_eq_map, nodes_append, List.map_append, ids_eq_map, ids_eq_map]

theorem nodup_ids_cons {node : Block} {rest : Forest} (distinct : (ids (node :: rest)).Nodup) :
    node.id ∉ ids node.children ∧ node.id ∉ ids rest ∧ (ids node.children).Nodup ∧
      (ids rest).Nodup ∧ forall id, id ∈ ids node.children -> id ∉ ids rest := by
  rw [ids_cons, List.nodup_cons, List.mem_append, not_or, List.nodup_append] at distinct
  refine ⟨distinct.1.1, distinct.1.2, distinct.2.1, distinct.2.2.1, ?_⟩
  intro id inChildren inRest
  exact distinct.2.2.2 id inChildren id inRest rfl

/-- The trees of a forest with distinct identifiers share no block. -/
theorem notMem_ids_rest {node : Block} {rest : Forest} {id : BlockId}
    (distinct : (ids (node :: rest)).Nodup) (member : id ∈ ids [node]) : id ∉ ids rest := by
  have apart : (ids [node] ++ ids rest).Nodup := ids_append [node] rest ▸ distinct
  exact fun inRest => (List.nodup_append.1 apart).2.2 id member id inRest rfl

theorem map_fst_kinds (forest : Forest) : (kinds forest).map Prod.fst = ids forest := by
  simp only [kinds, ids_eq_map, List.map_map]
  rfl

@[simp] theorem kinds_nil : kinds [] = [] := rfl

@[simp] theorem kinds_cons (node : Block) (rest : Forest) :
    kinds (node :: rest) = (node.id, node.kind) :: (kinds node.children ++ kinds rest) := by
  simp [kinds]

@[simp] theorem kinds_append (first second : Forest) :
    kinds (first ++ second) = kinds first ++ kinds second := by
  simp [kinds]

theorem mem_ids_of_mem_kinds {forest : Forest} {id : BlockId} {kind : Kind}
    (listed : (id, kind) ∈ kinds forest) : id ∈ ids forest := by
  rw [← map_fst_kinds]
  exact List.mem_map_of_mem listed

theorem exists_kind_of_mem_ids {forest : Forest} {id : BlockId} (member : id ∈ ids forest) :
    Exists fun kind => (id, kind) ∈ kinds forest := by
  rw [← map_fst_kinds] at member
  rcases List.mem_map.1 member with ⟨⟨found, kind⟩, listed, same⟩
  subst same
  exact ⟨kind, listed⟩

theorem kind_unique {forest : Forest} (distinct : (ids forest).Nodup) {id : BlockId}
    {one other : Kind} (first : (id, one) ∈ kinds forest) (second : (id, other) ∈ kinds forest) :
    one = other := by
  rw [← map_fst_kinds] at distinct
  have same := List.inj_on_of_nodup_map distinct first second rfl
  exact congrArg Prod.snd same

/-- Searching a forest is searching the list of its blocks. -/
theorem find?_eq_find?_nodes (wanted : BlockId) (forest : Forest) :
    find? wanted forest = (nodes forest).find? fun node => node.id = wanted := by
  induction forest using Forest.induction with
  | nil => rfl
  | cons id kind actor parent children rest below after =>
    rw [Forest.find?, Block.find?, nodes_cons, List.find?_cons]
    by_cases found : id = wanted
    · simp [found]
    · simp only [below, after, found, decide_false, List.find?_append]
      cases (nodes children).find? fun node => node.id = wanted <;> rfl

theorem find?_append (wanted : BlockId) (first second : Forest) :
    find? wanted (first ++ second) = (find? wanted first).or (find? wanted second) := by
  rw [find?_eq_find?_nodes, find?_eq_find?_nodes, find?_eq_find?_nodes, nodes_append,
    List.find?_append]

theorem find?_eq_none_iff {wanted : BlockId} {forest : Forest} :
    find? wanted forest = none <-> wanted ∉ ids forest := by
  simp only [find?_eq_find?_nodes, List.find?_eq_none, ids_eq_map, List.mem_map,
    decide_eq_true_eq, not_exists, not_and]

theorem mem_nodes_of_find? {wanted : BlockId} {forest : Forest} {found : Block}
    (hit : find? wanted forest = some found) : found ∈ nodes forest := by
  rw [find?_eq_find?_nodes] at hit
  exact List.mem_of_find?_eq_some hit

theorem id_of_find? {wanted : BlockId} {forest : Forest} {found : Block}
    (hit : find? wanted forest = some found) : found.id = wanted := by
  rw [find?_eq_find?_nodes] at hit
  simpa using List.find?_some hit

theorem exists_find?_of_mem_ids {wanted : BlockId} {forest : Forest}
    (member : wanted ∈ ids forest) : Exists fun found => find? wanted forest = some found := by
  cases hit : find? wanted forest with
  | none => exact absurd member (find?_eq_none_iff.1 hit)
  | some found => exact ⟨found, rfl⟩

theorem mem_ids_of_find? {wanted : BlockId} {forest : Forest} {found : Block}
    (hit : find? wanted forest = some found) : wanted ∈ ids forest := by
  rw [ids_eq_map, ← id_of_find? hit]
  exact List.mem_map_of_mem (mem_nodes_of_find? hit)

theorem mem_nodes_of_mem {forest : Forest} {node : Block} (top : node ∈ forest) :
    node ∈ nodes forest := by
  induction forest with
  | nil => exact absurd top List.not_mem_nil
  | cons first rest step =>
    rw [nodes_cons]
    rcases List.mem_cons.1 top with rfl | later
    · exact List.mem_cons_self
    · exact List.mem_cons_of_mem _ (List.mem_append_right _ (step later))

theorem mem_ids_of_mem {forest : Forest} {node : Block} (top : node ∈ forest) :
    node.id ∈ ids forest := by
  rw [ids_eq_map]
  exact List.mem_map_of_mem (mem_nodes_of_mem top)

theorem ne_nil_of_mem_ids {forest : Forest} {id : BlockId} (member : id ∈ ids forest) :
    forest ≠ [] := by
  rintro rfl
  cases member

theorem ne_nil_of_find? {wanted : BlockId} {forest : Forest} {found : Block}
    (hit : find? wanted forest = some found) : forest ≠ [] := by
  rintro rfl
  cases hit

theorem nodes_subset {forest : Forest} {inner : Block} (member : inner ∈ nodes forest) :
    nodes [inner] ⊆ nodes forest := by
  induction forest using Forest.induction with
  | nil => exact absurd member List.not_mem_nil
  | cons id kind actor parent children rest below after =>
    rw [nodes_cons] at member
    rw [nodes_cons ⟨id, kind, actor, parent, children⟩ rest]
    intro block found
    rcases List.mem_cons.1 member with rfl | inside
    · rw [nodes_cons, nodes_nil, List.append_nil] at found
      rcases List.mem_cons.1 found with same | inChildren
      · exact List.mem_cons.2 (Or.inl same)
      · exact List.mem_cons_of_mem _ (List.mem_append_left _ inChildren)
    · rcases List.mem_append.1 inside with inChildren | inRest
      · exact List.mem_cons_of_mem _ (List.mem_append_left _ (below inChildren found))
      · exact List.mem_cons_of_mem _ (List.mem_append_right _ (after inRest found))

theorem mem_kinds_of_find? {wanted : BlockId} {forest : Forest} {found : Block}
    (hit : find? wanted forest = some found) : (wanted, found.kind) ∈ kinds forest := by
  rw [← id_of_find? hit]
  exact List.mem_map_of_mem (mem_nodes_of_find? hit)

theorem exists_find?_of_mem_kinds {wanted : BlockId} {kind : Kind} {forest : Forest}
    (distinct : (ids forest).Nodup) (listed : (wanted, kind) ∈ kinds forest) :
    Exists fun found => find? wanted forest = some found ∧ found.kind = kind := by
  rcases exists_find?_of_mem_ids (mem_ids_of_mem_kinds listed) with ⟨found, hit⟩
  exact ⟨found, hit, kind_unique distinct (mem_kinds_of_find? hit) listed⟩

end Forest

theorem Block.ids_eq (node : Block) : node.ids = node.id :: Forest.ids node.children := by
  rcases node with ⟨id, kind, actor, parent, children⟩
  rfl

theorem Block.ids_eq_forest (node : Block) : node.ids = Forest.ids [node] := by
  rw [Block.ids_eq, Forest.ids_cons, Forest.ids_nil, List.append_nil]

theorem Block.contains_iff {node : Block} {wanted : BlockId} :
    node.contains wanted = true <-> wanted ∈ node.ids := by
  have alone : Forest.find? wanted [node] = node.find? wanted := by
    rw [Forest.find?, Forest.find?]
    cases node.find? wanted <;> rfl
  rw [Block.contains, ← alone, Block.ids_eq_forest, Option.isSome_iff_ne_none, ne_eq,
    Forest.find?_eq_none_iff, not_not]

end SpriteStage
