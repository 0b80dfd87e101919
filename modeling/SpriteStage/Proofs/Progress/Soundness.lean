import SpriteStage.Proofs.Programs.Soundness
import SpriteStage.Proofs.Progress.Lookup

namespace SpriteStage

/-!
# Progress that fits the programs

The entries of a run live apart from the programs.  They fit the programs when
every entry is that of a block which its actor has, and counts as the kind of
that block demands.  A missing entry always fits, since it counts as a fresh
one.  Here it is shown which changes of the entries, and which edits of the
programs, keep the two in step.
-/

/-- The entries that a block of a kind can have.  A command has no rounds.  A
block that repeats its body has between one and the most rounds due; all of
them are complete when it is done, and fewer before. -/
inductive Entry.Fits (kind : Kind) : Entry -> Prop
  | command (finished : Bool) (plain : kind.holdsBlocks = false) : Fits kind ⟨finished, 0, none⟩
  | underway (completed target : Nat) (repeats : kind.holdsBlocks = true)
      (bounded : target ≤ Control.maxRounds) (pending : completed < target) :
      Fits kind ⟨false, completed, some target⟩
  | done (target : Nat) (repeats : kind.holdsBlocks = true) (positive : 1 ≤ target)
      (bounded : target ≤ Control.maxRounds) : Fits kind ⟨true, target, some target⟩

namespace Entry

variable {kind changed : Kind} {entry : Entry}

theorem fits_fresh (kind : Kind) : (fresh kind).Fits kind := by
  cases kind with
  | motion command => exact .command false rfl
  | look command => exact .command false rfl
  | control command => exact .underway 0 command.rounds rfl command.rounds_le command.one_le_rounds

theorem Fits.of_family (fits : entry.Fits kind)
    (same : changed.holdsBlocks = kind.holdsBlocks) : entry.Fits changed := by
  cases fits with
  | command finished plain => exact .command finished (same.trans plain)
  | underway completed target repeats bounded pending =>
    exact .underway completed target (same.trans repeats) bounded pending
  | done target repeats positive bounded =>
    exact .done target (same.trans repeats) positive bounded

theorem Fits.finish_command (fits : entry.Fits kind) (plain : kind.holdsBlocks = false) :
    ({ entry with finished := true } : Entry).Fits kind := by
  cases fits with
  | command finished _ => exact .command true plain
  | underway _ _ repeats => rw [plain] at repeats; cases repeats
  | done _ repeats => rw [plain] at repeats; cases repeats

/-- A block that repeats its body and is not done has rounds to go. -/
theorem Fits.underway_of_unfinished (fits : entry.Fits kind) (repeats : kind.holdsBlocks = true)
    (unfinished : entry.finished = false) :
    Exists fun target => entry.target = some target ∧ target ≤ Control.maxRounds ∧
      entry.completed < target := by
  cases fits with
  | command _ plain => rw [plain] at repeats; cases repeats
  | underway completed target _ bounded pending => exact ⟨target, rfl, bounded, pending⟩
  | done => cases unfinished

end Entry

namespace Progress

/-- Every entry is that of a block of its actor, and fits the kind of it. -/
def Fits (store : Programs) (progress : Progress) : Prop :=
  forall actor id entry, progress.get? actor id = some entry ->
    Exists fun kind => (id, kind) ∈ Forest.kinds (store.forest actor) ∧ entry.Fits kind

namespace Fits

variable {store next : Programs} {progress after : Progress} {actor owner : ActorId}
  {id : BlockId} {kind : Kind} {entry : Entry} {node : Block} {parent : Option BlockId}

theorem empty (store : Programs) : Progress.empty.Fits store := by
  intro actor id entry found
  cases found

/-- A block that an actor does not have has no entry with it. -/
theorem get?_eq_none (fits : progress.Fits store)
    (absent : id ∉ Forest.ids (store.forest actor)) : progress.get? actor id = none := by
  cases found : progress.get? actor id with
  | none => rfl
  | some entry =>
    rcases fits actor id entry found with ⟨kind, listed, _⟩
    exact absurd (Forest.mem_ids_of_mem_kinds listed) absent

/-- The entry of a block, present or not, fits its kind. -/
theorem entryOf (fits : progress.Fits store) (sound : store.Sound)
    (listed : (id, kind) ∈ Forest.kinds (store.forest actor)) :
    (progress.entryOf actor id kind).Fits kind := by
  cases found : progress.get? actor id with
  | none =>
    rw [entryOf_of_none found]
    exact Entry.fits_fresh kind
  | some entry =>
    rcases fits actor id entry found with ⟨other, otherListed, entryFits⟩
    rw [entryOf_of_some found, Forest.kind_unique (sound.distinct actor) listed otherListed]
    exact entryFits

/-! ## Changes of the entries -/

theorem put (fits : progress.Fits store)
    (listed : (id, kind) ∈ Forest.kinds (store.forest actor)) (entryFits : entry.Fits kind) :
    (progress.put actor id entry).Fits store := by
  intro other block found hit
  rw [get?_put] at hit
  split at hit
  · rename_i own
    rw [own.1, own.2]
    cases hit
    exact ⟨kind, listed, entryFits⟩
  · exact fits other block found hit

theorem put_put (fits : progress.Fits store) (early : Entry)
    (listed : (id, kind) ∈ Forest.kinds (store.forest actor)) (entryFits : entry.Fits kind) :
    ((progress.put actor id early).put actor id entry).Fits store := by
  intro other block found hit
  rw [get?_put] at hit
  split at hit
  · rename_i own
    rw [own.1, own.2]
    cases hit
    exact ⟨kind, listed, entryFits⟩
  · rename_i elsewhere
    rw [get?_put, if_neg elsewhere] at hit
    exact fits other block found hit

theorem ensure (fits : progress.Fits store)
    (listed : (id, kind) ∈ Forest.kinds (store.forest actor)) :
    (progress.ensure actor id kind).Fits store := by
  unfold Progress.ensure
  split
  · exact fits
  · exact fits.put listed (Entry.fits_fresh kind)

theorem seed (forest : Forest) (listed : Forest.kinds forest ⊆ Forest.kinds (store.forest actor)) :
    forall progress : Progress, progress.Fits store -> (progress.seed actor forest).Fits store := by
  induction forest using Forest.induction with
  | nil => exact fun _ fits => fits
  | cons id kind owner parent children rest below after =>
    intro progress fits
    rw [Forest.kinds_cons, List.cons_subset, List.append_subset] at listed
    rw [seed_cons]
    exact after listed.2.2 _ (below listed.2.1 _ (fits.put listed.1 (Entry.fits_fresh kind)))

theorem of_fewer (fits : progress.Fits store)
    (fewer : forall actor id, after.get? actor id = none ∨
      after.get? actor id = progress.get? actor id) : after.Fits store := by
  intro actor id entry found
  rcases fewer actor id with gone | same
  · rw [gone] at found
    cases found
  · exact fits actor id entry (same ▸ found)

theorem forget (fits : progress.Fits store) (actor : ActorId) :
    (progress.forget actor).Fits store := fits.of_fewer (progress.fewer_forget actor)

theorem start (store : Programs) : (Progress.start store.programs).Fits store := by
  have seeded : forall (rows : List (ActorId × Forest)) (progress : Progress),
      rows ⊆ store.forests.rows -> progress.Fits store ->
        (rows.foldl (fun progress row => progress.seed row.1 row.2) progress).Fits store := by
    intro rows
    induction rows with
    | nil => exact fun _ _ fits => fits
    | cons row rest step =>
      intro progress known fits
      rw [List.cons_subset] at known
      apply step _ known.2
      apply seed _ _ _ fits
      rw [Programs.forest_of_mem known.1]
      exact List.Subset.refl _
  exact seeded _ _ (List.filter_subset_self _) (empty store)

/-! ## Edits of the programs -/

/-- Entries stay fitting while the blocks that have one stay with their actor
and in their family. -/
theorem of_programs (fits : progress.Fits store)
    (kept : forall actor id kind, (id, kind) ∈ Forest.kinds (store.forest actor) ->
      progress.get? actor id ≠ none ->
        Exists fun changed => (id, changed) ∈ Forest.kinds (next.forest actor) ∧
          changed.holdsBlocks = kind.holdsBlocks) : progress.Fits next := by
  intro actor id entry found
  rcases fits actor id entry found with ⟨kind, listed, entryFits⟩
  rcases kept actor id kind listed (by rw [found]; exact Option.some_ne_none entry) with
    ⟨changed, changedListed, same⟩
  exact ⟨changed, changedListed, entryFits.of_family same⟩

theorem insert (fits : progress.Fits store) (sound : store.Sound)
    (inserted : store.insert node parent actor = .ok next) : progress.Fits next := by
  rcases Programs.insert_eq_ok_iff.1 inserted with ⟨_, admitted, rfl⟩
  apply fits.of_programs
  intro other id kind listed _
  refine ⟨kind, ?_, rfl⟩
  rw [Programs.forest_withForest]
  split
  · rename_i own
    rw [own] at listed
    exact (sound.kinds_grown node admitted).mem_iff.2 (List.mem_append_left _ listed)
  · exact listed

/-- When a tree is taken out of a program and its entries are dropped, the
other entries still fit. -/
theorem prune (fits : progress.Fits store) (sound : store.Sound)
    (found : Forest.find? id (store.forest owner) = some node) :
    (progress.forgetBlocks owner node.ids).Fits
      (store.withForest owner (Forest.prune id (store.forest owner))) := by
  have left : (progress.forgetBlocks owner node.ids).Fits store :=
    fits.of_fewer (progress.fewer_forgetBlocks owner node.ids)
  apply left.of_programs
  intro other block kind listed entered
  refine ⟨kind, ?_, rfl⟩
  rw [Programs.forest_withForest]
  split
  · rename_i own
    rw [own] at listed entered
    rw [get?_forgetBlocks] at entered
    have outside : block ∉ node.ids := fun inside => entered (if_pos ⟨rfl, inside⟩)
    have split := (Forest.kinds_perm_prune (sound.distinct owner) found).mem_iff.1 listed
    rcases List.mem_append.1 split with inside | remains
    · rw [Block.ids_eq_forest] at outside
      exact absurd (Forest.mem_ids_of_mem_kinds inside) outside
    · exact remains
  · exact listed

theorem move_within (fits : progress.Fits store) (sound : store.Sound)
    (found : Forest.find? id (store.forest actor) = some node)
    (admitted : (store.withForest actor (Forest.prune id (store.forest actor))).Admits parent
      actor) :
    let without := store.withForest actor (Forest.prune id (store.forest actor))
    progress.Fits (without.withForest actor (without.grown node parent actor)) := by
  intro without
  have joined := (sound.withPruned found).kinds_grown node admitted
  have split := Forest.kinds_perm_prune (sound.distinct actor) found
  rw [Programs.forest_withForest_self] at joined
  apply fits.of_programs
  intro other block kind listed _
  refine ⟨kind, ?_, rfl⟩
  rw [Programs.forest_withForest]
  by_cases own : other = actor
  · rw [own] at listed
    rw [if_pos own]
    exact (joined.trans (List.perm_append_comm.trans split.symm)).mem_iff.2 listed
  · rw [if_neg own, Programs.forest_withForest, if_neg own]
    exact listed

theorem adjust (fits : progress.Fits store) (sound : store.Sound) {name : String}
    {value : Parameter} (adjusted : store.adjust id name value = .ok next) :
    progress.Fits next := by
  rcases Programs.adjust_eq_ok adjusted with ⟨owner, node, kind, located, setting, rfl⟩
  have found := Programs.find?_of_locate located
  have distinct := sound.distinct owner
  rw [Forest.updated_eq_revise distinct]
  apply fits.of_programs
  intro other block old listed _
  rw [Programs.forest_withForest]
  split
  · rename_i own
    rw [own] at listed
    rw [Forest.kinds_withKind kind distinct]
    refine ⟨if block = id then kind else old, List.mem_map_of_mem listed, ?_⟩
    split
    · rename_i same
      rw [same] at listed
      rw [Forest.kind_unique distinct listed (Forest.mem_kinds_of_find? found)]
      exact Kind.holdsBlocks_of_set setting
    · rfl
  · exact ⟨old, listed, rfl⟩

theorem erase (fits : progress.Fits store) (actor : ActorId) :
    (progress.forget actor).Fits (store.erase actor) := by
  apply (fits.forget actor).of_programs
  intro other id kind listed entered
  have different : other ≠ actor := by
    rintro rfl
    rw [get?_forget] at entered
    exact entered (if_pos rfl)
  refine ⟨kind, ?_, rfl⟩
  rw [Programs.forest_erase, if_neg different]
  exact listed

/-- After an exchange the two programs start over, and the others go on. -/
theorem exchange (fits : progress.Fits store) (sound : store.Sound) (one two : ActorId) :
    let exchanged := store.exchange one two
    ((((progress.forget one).forget two).seed one (exchanged.forest one)).seed two
      (exchanged.forest two)).Fits exchanged := by
  intro exchanged
  have others : ((progress.forget one).forget two).Fits exchanged := by
    apply ((fits.forget one).forget two).of_programs
    intro other id kind listed entered
    refine ⟨kind, ?_, rfl⟩
    have notTwo : other ≠ two := by
      rintro rfl
      rw [get?_forget] at entered
      exact entered (if_pos rfl)
    have notOne : other ≠ one := by
      rintro rfl
      rw [get?_forget, if_neg notTwo, get?_forget] at entered
      exact entered (if_pos rfl)
    rw [sound.forest_exchange_eq_relabel, Forest.kinds_relabel, Programs.partner, if_neg notTwo,
      if_neg notOne]
    exact listed
  exact seed _ (List.Subset.refl _) _ (seed _ (List.Subset.refl _) _ others)

end Fits

end Progress

end SpriteStage
