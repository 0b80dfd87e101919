import SpriteStage.Proofs.Programs.Inventory
import SpriteStage.Proofs.Programs.Relocation
import SpriteStage.Proofs.Programs.Seclusion
import SpriteStage.Proofs.Progress.Lookup

namespace SpriteStage

/-!
# The order of the programs

A store lists its programs in some order, with or without rows for actors that
have no blocks.  A search through all programs stops at the first one that has
the block, so its result could depend on the order.  It does not while no
identifier is in two programs, and no edit ever brings an identifier into a
second program, whichever trees are inserted.  So the programs alone determine
what a store answers and what becomes of it.
-/

namespace Programs

/-- Whether no identifier is in two programs. -/
def Apart (store : Programs) : Prop :=
  forall id one two, id ∈ Forest.ids (store.forest one) ->
    id ∈ Forest.ids (store.forest two) -> one = two

variable {store next without one two : Programs} {actor owner : ActorId} {id : BlockId}
  {node taken : Block} {parent : Option BlockId}

theorem Sound.apart (sound : store.Sound) : store.Apart := fun _ _ _ => sound.owner_unique

/-! ## No identifier gets into a second program -/

namespace Apart

/-- A program may be replaced by one whose blocks it had already, or nobody. -/
theorem withForest (apart : store.Apart) {forest : Forest}
    (known : forall id, id ∈ Forest.ids forest -> id ∈ Forest.ids (store.forest actor) ∨
      forall other, id ∉ Forest.ids (store.forest other)) :
    (store.withForest actor forest).Apart := by
  have foreign : forall id, id ∈ Forest.ids forest -> forall other,
      id ∈ Forest.ids (store.forest other) -> other = actor := by
    intro id member other placed
    rcases known id member with own | nowhere
    · exact apart id other actor placed own
    · exact absurd placed (nowhere other)
  intro id one two inOne inTwo
  rw [forest_withForest] at inOne inTwo
  by_cases first : one = actor <;> by_cases second : two = actor
  · exact first.trans second.symm
  · rw [if_pos first] at inOne
    rw [if_neg second] at inTwo
    exact absurd (foreign id inOne two inTwo) second
  · rw [if_neg first] at inOne
    rw [if_pos second] at inTwo
    exact absurd (foreign id inTwo one inOne) first
  · rw [if_neg first] at inOne
    rw [if_neg second] at inTwo
    exact apart id one two inOne inTwo

theorem insert (apart : store.Apart) (inserted : store.insert node parent actor = .ok next) :
    next.Apart := by
  rcases insert_eq_ok_iff.1 inserted with ⟨unplaced, _, rfl⟩
  exact apart.withForest fun id member => (mem_ids_grown member).imp_right (unplaced id)

theorem remove (apart : store.Apart) (removed : store.remove id = .ok (taken, without)) :
    without.Apart := by
  rcases detaches_of_remove removed with ⟨owner, left, detached, rfl⟩
  exact apart.withForest fun id member =>
    Or.inl (detached.ids_perm.mem_iff.2 (List.mem_append_right _ member))

theorem move (apart : store.Apart) (id : BlockId) (actor : ActorId) (parent : Option BlockId) :
    (store.move id actor parent).1.Apart :=
  move_of_kept apart (fun _ _ removed => apart.remove removed)
    fun _ _ _ left inserted => left.insert inserted

theorem adjust (apart : store.Apart) {name : String} {value : Parameter}
    (adjusted : store.adjust id name value = .ok next) : next.Apart := by
  rcases adjust_eq_ok adjusted with ⟨owner, node, kind, _, _, rfl⟩
  exact apart.withForest fun _ member => Or.inl (mem_ids_of_withKind member)

theorem exchange (apart : store.Apart) (first second : ActorId) :
    (store.exchange first second).Apart := by
  by_cases same : first = second
  · rw [Programs.exchange, if_pos same]
    exact apart
  · have handed : forall other, Forest.ids ((store.exchange first second).forest other) =
        Forest.ids (store.forest (partner first second other)) := by
      intro other
      rw [forest_exchange same, partner]
      split
      · exact Forest.ids_relabel ..
      · split
        · exact Forest.ids_relabel ..
        · rfl
    intro id one two inOne inTwo
    rw [handed] at inOne inTwo
    exact partner_injective (apart id _ _ inOne inTwo)

theorem erase (apart : store.Apart) (actor : ActorId) : (store.erase actor).Apart := by
  intro id one two inOne inTwo
  rw [forest_erase] at inOne inTwo
  split at inOne
  · exact absurd inOne List.not_mem_nil
  · split at inTwo
    · exact absurd inTwo List.not_mem_nil
    · exact apart id one two inOne inTwo

end Apart

/-! ## What the programs alone determine -/

/-- A search that hits in one program at most has one result in any two stores
of the same programs. -/
theorem search_congr {Found : Type} (look : ActorId -> Forest -> Option Found)
    (nothing : forall actor, look actor [] = none)
    (alone : forall first second, (look first (one.forest first)).isSome ->
      (look second (one.forest second)).isSome -> first = second)
    (same : one.forest = two.forest) :
    one.forests.rows.findSome? (fun row => look row.1 row.2) =
      two.forests.rows.findSome? (fun row => look row.1 row.2) := by
  apply Option.ext
  intro found
  rw [search_eq_some_iff look nothing alone, search_eq_some_iff look nothing (same ▸ alone), same]

theorem locate_congr (apart : one.Apart) (same : one.forest = two.forest) :
    one.locate = two.locate := by
  funext id
  refine search_congr (fun actor forest => (Forest.find? id forest).map (actor, ·))
    (fun _ => rfl) ?_ same
  intro first second inFirst inSecond
  rw [Option.isSome_map] at inFirst inSecond
  rcases Option.isSome_iff_exists.1 inFirst with ⟨node, foundFirst⟩
  rcases Option.isSome_iff_exists.1 inSecond with ⟨other, foundSecond⟩
  exact apart id first second (Forest.mem_ids_of_find? foundFirst)
    (Forest.mem_ids_of_find? foundSecond)

theorem holds_congr (apart : one.Apart) (same : one.forest = two.forest) :
    one.holds = two.holds := by
  funext id
  rw [holds, holds, locate_congr apart same]

theorem withForest_congr (same : one.forest = two.forest) (actor : ActorId) (forest : Forest) :
    (one.withForest actor forest).forest = (two.withForest actor forest).forest := by
  funext other
  rw [forest_withForest, forest_withForest, same]

/-- Results of two stores that are seen alike are the same refusal, or both are
values that are seen alike. -/
theorem alike_cases {Value Seen : Type} {view : Value -> Seen}
    {first second : Except ProgramRefusal Value} (alike : first.map view = second.map view) :
    (Exists fun refusal => first = .error refusal ∧ second = .error refusal) ∨
      Exists fun one => Exists fun two =>
        first = .ok one ∧ second = .ok two ∧ view one = view two := by
  cases first with
  | error refusal =>
    cases second with
    | error other =>
      cases alike
      exact Or.inl ⟨refusal, rfl, rfl⟩
    | ok value => cases alike
  | ok value =>
    cases second with
    | error refusal => cases alike
    | ok other => exact Or.inr ⟨value, other, rfl, rfl, Except.ok.inj alike⟩

theorem insert_congr (apart : one.Apart) (same : one.forest = two.forest) (node : Block)
    (parent : Option BlockId) (actor : ActorId) :
    (one.insert node parent actor).map forest = (two.insert node parent actor).map forest := by
  unfold Programs.insert
  rw [holds_congr apart same, same]
  cases node.ids.find? two.holds with
  | some existing => rfl
  | none =>
    cases parent with
    | none => exact congrArg Except.ok (withForest_congr same actor _)
    | some above =>
      dsimp only
      cases Forest.find? above (two.forest actor) with
      | none => rfl
      | some target =>
        dsimp only
        split
        · exact congrArg Except.ok (withForest_congr same actor _)
        · rfl

theorem remove_congr (apart : one.Apart) (same : one.forest = two.forest) (id : BlockId) :
    (one.remove id).map (fun removed => (removed.1, removed.2.forest)) =
      (two.remove id).map fun removed => (removed.1, removed.2.forest) := by
  have search := search_congr (fun actor forest => (Forest.take? id forest).map (actor, ·))
    (fun _ => rfl) (by
      intro first second inFirst inSecond
      rw [Option.isSome_map] at inFirst inSecond
      rcases Option.isSome_iff_exists.1 inFirst with ⟨⟨_, _⟩, takenFirst⟩
      rcases Option.isSome_iff_exists.1 inSecond with ⟨⟨_, _⟩, takenSecond⟩
      exact apart id first second (Forest.detaches_of_take? takenFirst).mem_ids
        (Forest.detaches_of_take? takenSecond).mem_ids) same
  unfold Programs.remove
  dsimp only
  rw [search]
  split
  · rename_i owner taken left _
    exact congrArg (fun programs => Except.ok (taken, programs)) (withForest_congr same owner left)
  · rfl

theorem moveRefusal?_congr (same : one.forest = two.forest) :
    one.moveRefusal? = two.moveRefusal? := by
  funext block actor parent
  unfold moveRefusal?
  rw [same]

theorem move_congr (apart : one.Apart) (same : one.forest = two.forest) (id : BlockId)
    (actor : ActorId) (parent : Option BlockId) :
    (one.move id actor parent).1.forest = (two.move id actor parent).1.forest ∧
      (one.move id actor parent).2 = (two.move id actor parent).2 := by
  unfold Programs.move
  rw [locate_congr apart same, moveRefusal?_congr same]
  split
  · exact ⟨same, rfl⟩
  · split
    · exact ⟨same, rfl⟩
    · rcases alike_cases (remove_congr apart same id) with
        ⟨refusal, first, second⟩ | ⟨⟨taken, without⟩, ⟨other, left⟩, first, second, alike⟩
      · rw [first, second]
        exact ⟨same, rfl⟩
      · rw [Prod.mk.injEq] at alike
        rcases alike with ⟨rfl, leftAlike⟩
        rw [first, second]
        dsimp only
        rcases alike_cases (insert_congr (apart.remove first) leftAlike taken parent actor) with
          ⟨refusal, first, second⟩ | ⟨moved, again, first, second, alike⟩
        · rw [first, second]
          exact ⟨leftAlike, rfl⟩
        · rw [first, second]
          exact ⟨alike, rfl⟩

theorem adjust_congr (apart : one.Apart) (same : one.forest = two.forest) (id : BlockId)
    (name : String) (value : Parameter) :
    (one.adjust id name value).map forest = (two.adjust id name value).map forest := by
  unfold Programs.adjust
  rw [locate_congr apart same, same]
  split
  · rfl
  · split
    · rfl
    · exact congrArg Except.ok (withForest_congr same _ _)

theorem exchange_congr (same : one.forest = two.forest) (first second : ActorId) :
    (one.exchange first second).forest = (two.exchange first second).forest := by
  by_cases equal : first = second
  · rw [Programs.exchange, Programs.exchange, if_pos equal, if_pos equal, same]
  · funext other
    rw [forest_exchange equal, forest_exchange equal, same]

theorem erase_congr (same : one.forest = two.forest) (actor : ActorId) :
    (one.erase actor).forest = (two.erase actor).forest := by
  funext other
  rw [forest_erase, forest_erase, same]

/-- The same programs are the same rows up to their order, apart from rows
without blocks. -/
theorem programs_perm_iff : one.programs.Perm two.programs <-> one.forest = two.forest := by
  constructor
  · intro reordered
    funext actor
    rw [← getD_lookup_programs, ← getD_lookup_programs,
      Table.lookup_perm one.nodup_keys_programs reordered]
  · intro same
    rw [List.perm_ext_iff_of_nodup (.of_map _ one.nodup_keys_programs)
      (.of_map _ two.nodup_keys_programs)]
    rintro ⟨actor, forest⟩
    rw [mem_programs_iff, mem_programs_iff, same]

/-- Rows without blocks do not count. -/
theorem ids_eq_programs (store : Programs) :
    store.ids = store.programs.flatMap fun row => Forest.ids row.2 := by
  rw [ids, programs]
  induction store.forests.rows with
  | nil => rfl
  | cons row rest step =>
    rcases row with ⟨owner, forest⟩
    cases forest with
    | nil => exact step
    | cons node later =>
      rw [List.flatMap_cons, step]
      rfl

theorem blockCount_of_forests (same : one.forest = two.forest) :
    one.blockCount = two.blockCount := by
  apply blockCount_congr
  rw [ids_eq_programs, ids_eq_programs]
  exact (programs_perm_iff.2 same).flatMap_right _

/-- A run starts with the same entries. -/
theorem start_congr (same : one.forest = two.forest) :
    (Progress.start one.programs).get? = (Progress.start two.programs).get? := by
  funext actor id
  rw [Progress.get?_start_rows one.nodup_keys_programs,
    Progress.get?_start_rows two.nodup_keys_programs, getD_lookup_programs, getD_lookup_programs,
    same]

end Programs

/-- Tables in which every entry is found alike have as many of them. -/
theorem Progress.size_congr {first second : Progress} (same : first.get? = second.get?) :
    first.size = second.size :=
  (Table.perm_of_lookup first.entries.distinct second.entries.distinct fun key =>
    congrFun (congrFun same key.1) key.2).length_eq

namespace Programs

/-! ## Calls -/

/-- Everything that can be asked of a store. -/
inductive Call where
  | locate (id : BlockId)
  | find (id : BlockId)
  | insert (node : Block) (parent : Option BlockId) (actor : ActorId)
  | remove (id : BlockId)
  | move (id : BlockId) (actor : ActorId) (parent : Option BlockId)
  | adjust (id : BlockId) (name : String) (value : Parameter)
  | exchange (first second : ActorId)
  | erase (actor : ActorId)
  | count
  /-- The entries with which a run of the programs starts. -/
  | start

inductive Answer where
  | located (place : Option (ActorId × Block))
  | found (node : Option Block)
  | inserted (result : Except ProgramRefusal BlockId)
  | removed (result : Except ProgramRefusal Block)
  | moved (result : Except ProgramRefusal Unit)
  | adjusted (result : Except ProgramRefusal Unit)
  | exchanged
  | erased (program : Forest)
  | counted (count : Nat)
  | started (size : Nat) (entries : ActorId -> BlockId -> Option Entry)

def Call.perform (store : Programs) : Call -> Answer × Programs
  | .locate id => (.located (store.locate id), store)
  | .find id => (.found (store.find? id), store)
  | .insert node parent actor =>
    match store.insert node parent actor with
    | .ok next => (.inserted (.ok node.id), next)
    | .error refusal => (.inserted (.error refusal), store)
  | .remove id =>
    match store.remove id with
    | .ok (taken, without) => (.removed (.ok taken), without)
    | .error refusal => (.removed (.error refusal), store)
  | .move id actor parent =>
    (.moved (store.move id actor parent).2, (store.move id actor parent).1)
  | .adjust id name value =>
    match store.adjust id name value with
    | .ok next => (.adjusted (.ok ()), next)
    | .error refusal => (.adjusted (.error refusal), store)
  | .exchange first second => (.exchanged, store.exchange first second)
  | .erase actor => (.erased (store.forest actor), store.erase actor)
  | .count => (.counted store.blockCount, store)
  | .start =>
    let entries := Progress.start store.programs
    (.started entries.size entries.get?, store)

/-- Whether two stores gave the same answer and have the same programs after it. -/
structure Alike (first second : Answer × Programs) : Prop where
  answer : first.1 = second.1
  programs : first.2.forest = second.2.forest

/-- Calls one after the other.  Before each of them the store may come to list
its programs in another order. -/
inductive Course : Programs -> List Call -> List Answer -> Programs -> Prop
  | done (store : Programs) : Course store [] [] store
  | next {store listed last : Programs} {call : Call} {rest : List Call} {answers : List Answer}
      (reordered : store.programs.Perm listed.programs)
      (course : Course (call.perform listed).2 rest answers last) :
      Course store (call :: rest) ((call.perform listed).1 :: answers) last

theorem Apart.perform (apart : store.Apart) (call : Call) : (call.perform store).2.Apart := by
  cases call with
  | insert node parent actor =>
    rw [Call.perform]
    split
    · rename_i inserted
      exact apart.insert inserted
    · exact apart
  | remove id =>
    rw [Call.perform]
    split
    · rename_i removed
      exact apart.remove removed
    · exact apart
  | move id actor parent => exact apart.move id actor parent
  | adjust id name value =>
    rw [Call.perform]
    split
    · rename_i adjusted
      exact apart.adjust adjusted
    · exact apart
  | exchange first second => exact apart.exchange first second
  | erase actor => exact apart.erase actor
  | _ => exact apart

/-- Stores of the same programs answer alike, whatever they are asked. -/
theorem perform_alike (apart : one.Apart) (same : one.forest = two.forest) (call : Call) :
    Alike (call.perform one) (call.perform two) := by
  cases call with
  | locate id => exact ⟨by rw [Call.perform, locate_congr apart same]; rfl, same⟩
  | find id =>
    refine ⟨?_, same⟩
    rw [Call.perform, find?, locate_congr apart same]
    rfl
  | insert node parent actor =>
    rw [Call.perform, Call.perform]
    rcases alike_cases (insert_congr apart same node parent actor) with
      ⟨refusal, first, second⟩ | ⟨next, other, first, second, alike⟩
    · rw [first, second]
      exact ⟨rfl, same⟩
    · rw [first, second]
      exact ⟨rfl, alike⟩
  | remove id =>
    rw [Call.perform, Call.perform]
    rcases alike_cases (remove_congr apart same id) with
      ⟨refusal, first, second⟩ | ⟨⟨taken, without⟩, ⟨other, left⟩, first, second, alike⟩
    · rw [first, second]
      exact ⟨rfl, same⟩
    · rw [Prod.mk.injEq] at alike
      rcases alike with ⟨rfl, alike⟩
      rw [first, second]
      exact ⟨rfl, alike⟩
  | move id actor parent =>
    have alike := move_congr apart same id actor parent
    exact ⟨congrArg Answer.moved alike.2, alike.1⟩
  | adjust id name value =>
    rw [Call.perform, Call.perform]
    rcases alike_cases (adjust_congr apart same id name value) with
      ⟨refusal, first, second⟩ | ⟨next, other, first, second, alike⟩
    · rw [first, second]
      exact ⟨rfl, same⟩
    · rw [first, second]
      exact ⟨rfl, alike⟩
  | exchange first second => exact ⟨rfl, exchange_congr same first second⟩
  | erase actor => exact ⟨congrArg Answer.erased (congrFun same actor), erase_congr same actor⟩
  | count => exact ⟨congrArg Answer.counted (blockCount_of_forests same), same⟩
  | start =>
    have entries := start_congr same
    refine ⟨?_, same⟩
    dsimp only [Call.perform]
    rw [entries, Progress.size_congr entries]

theorem course_alike {calls : List Call} {answers others : List Answer} {last final : Programs}
    (apart : one.Apart) (same : one.forest = two.forest) (first : Course one calls answers last)
    (second : Course two calls others final) : answers = others ∧ last.forest = final.forest := by
  induction first generalizing two others final with
  | done store =>
    cases second
    exact ⟨rfl, same⟩
  | @next store listed last call rest answers reordered course step =>
    cases second with
    | @next _ relisted _ _ _ _ otherReordered otherCourse =>
      have listedSame := programs_perm_iff.1 reordered
      have listedApart : listed.Apart := by
        unfold Apart
        rw [← listedSame]
        exact apart
      have alike := perform_alike listedApart
        (listedSame.symm.trans (same.trans (programs_perm_iff.1 otherReordered))) call
      have rests := step (listedApart.perform call) alike.programs otherCourse
      exact ⟨by rw [alike.answer, rests.1], rests.2⟩

theorem exists_course (store : Programs) (calls : List Call) :
    Exists fun answers => Exists fun last => Course store calls answers last := by
  induction calls generalizing store with
  | nil => exact ⟨[], store, .done store⟩
  | cons call rest step =>
    rcases step (call.perform store).2 with ⟨answers, last, course⟩
    exact ⟨_, last, .next (List.Perm.refl _) course⟩

/-- Two stores that have the same programs in different orders, with or without
rows for actors who have no blocks, answer every call alike, and have the same
programs after it.  So they do after any calls, in whichever orders the
programs come to be listed between them.

Empty rows are ignored as well, so that an actor that lost its last block and one
that never had any are alike.  The table of a new run is compared entry by entry,
because it has no order of its own. -/
theorem answers_ignore_enumeration {one two : Programs} (sound : one.Sound)
    (reordered : one.programs.Perm two.programs) :
    (forall call : Call, Alike (call.perform one) (call.perform two)) ∧
      forall (calls : List Call) (answers others : List Answer) (last final : Programs),
        Course one calls answers last -> Course two calls others final ->
          answers = others ∧ last.forest = final.forest := by
  have same := programs_perm_iff.1 reordered
  refine ⟨perform_alike sound.apart same, ?_⟩
  intro calls answers others last final first second
  exact course_alike sound.apart same first second

section Sample

/-- The shelves in another order, behind an actor without blocks. -/
def sampleRearranged : Programs :=
  ((empty.withForest ⟨Uuid.ofNat 3⟩ []).withForest ⟨Uuid.ofNat 2⟩
    (sampleShelves.forest ⟨Uuid.ofNat 2⟩)).withForest ⟨Uuid.ofNat 1⟩
      (sampleShelves.forest ⟨Uuid.ofNat 1⟩)

def sampleRequests : List Call :=
  [.insert ⟨⟨Uuid.ofNat 6⟩, .control (.times 2), .nobody, none,
      [⟨⟨Uuid.ofNat 5⟩, .control (.times 2), .nobody, none, []⟩]⟩ none ⟨Uuid.ofNat 3⟩,
    .move ⟨Uuid.ofNat 3⟩ ⟨Uuid.ofNat 2⟩ (some ⟨Uuid.ofNat 5⟩),
    .exchange ⟨Uuid.ofNat 1⟩ ⟨Uuid.ofNat 3⟩, .remove ⟨Uuid.ofNat 2⟩, .start]

theorem sampleRearranged_answers :
    sampleShelves.forests.keys ≠ sampleRearranged.forests.keys ∧ sampleShelves.Sound ∧
      sampleShelves.programs.Perm sampleRearranged.programs ∧
      Exists fun answers => Exists fun last => Exists fun final =>
        Course sampleShelves sampleRequests answers last ∧
          Course sampleRearranged sampleRequests answers final ∧ last.forest = final.forest := by
  have reordered : sampleShelves.programs.Perm sampleRearranged.programs := List.Perm.swap ..
  rcases exists_course sampleShelves sampleRequests with ⟨answers, last, first⟩
  rcases exists_course sampleRearranged sampleRequests with ⟨others, final, second⟩
  have alike := (answers_ignore_enumeration sampleShelves_sound reordered).2 sampleRequests answers
    others last final first second
  rw [← alike.1] at second
  exact ⟨by decide, sampleShelves_sound, reordered, answers, last, final, first, second, alike.2⟩

end Sample

end Programs

end SpriteStage
