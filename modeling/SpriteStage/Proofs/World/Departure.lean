import SpriteStage.Proofs.Programs.Absence
import SpriteStage.Proofs.World.Agreement
import SpriteStage.Proofs.World.Arrivals
import SpriteStage.Proofs.World.Lifetime

namespace SpriteStage

/-!
# Actors that leave

An actor is named in the cast, in the programs, in the entries of a run and in
its debounce set.  When it leaves, it is named in none of them any more, and
everything else stays as it is.  The run may still drive it; that never has
an effect, since whatever is done for the sake of an actor asks for it in the
cast first.  So it stays forgotten, whatever is done next, as long as no new
actor takes over its identifier.  Its blocks are nowhere, and have no entries
left: should they be placed again, they start anew.
-/

/-- Whether nothing of a run but the list of the actors that it drives names
an actor. -/
structure Run.Forgets (actor : ActorId) (run : Run) : Prop where
  entries : forall id, run.progress.get? actor id = none
  pairs : forall pair, pair ∈ run.debounce.held -> pair.involves actor = false

namespace World

/-- Whether nothing in a world names an actor, apart from the list of the
actors that the run drives. -/
structure Forgotten (actor : ActorId) (world : World) : Prop where
  unregistered : actor ∉ world.cast.ids
  programs : world.programs.Unnamed actor
  run : forall run, world.run = some run -> run.Forgets actor

namespace Forgotten

variable {world after : World} {actor other : ActorId} {now : Instant}

theorem ne_of_contains (forgotten : world.Forgotten actor)
    (present : world.cast.contains other = true) : other ≠ actor := by
  rintro rfl
  exact forgotten.unregistered (Cast.contains_iff_mem_ids.1 present)

theorem ne_of_get? (forgotten : world.Forgotten actor) {found : Actor}
    (isFound : world.cast.get? other = some found) : other ≠ actor :=
  forgotten.ne_of_contains (by rw [Cast.contains, isFound]; rfl)

/-- Who is named in the cast depends only on the identifiers there. -/
theorem of_cast (forgotten : world.Forgotten actor) {cast : Cast}
    (unregistered : actor ∉ cast.ids) : Forgotten actor { world with cast := cast } :=
  ⟨unregistered, forgotten.programs, forgotten.run⟩

theorem unregistered_modify (forgotten : world.Forgotten actor) {change : Actor -> Actor}
    (keeps : forall found, (change found).id = found.id) :
    actor ∉ (world.cast.modify other change).ids := by
  rw [Cast.ids_modify keeps]
  exact forgotten.unregistered

theorem of_programs (forgotten : world.Forgotten actor) {programs : Programs}
    (unnamed : programs.Unnamed actor) :
    Forgotten actor { world with programs := programs } :=
  ⟨forgotten.unregistered, unnamed, forgotten.run⟩

/-- A change of the run that brings nothing of the actor into it. -/
theorem of_run (forgotten : world.Forgotten actor) {change : Run -> Run}
    (keeps : forall run : Run, run.Forgets actor -> (change run).Forgets actor) :
    Forgotten actor { world with run := world.run.map change } := by
  refine ⟨forgotten.unregistered, forgotten.programs, ?_⟩
  intro run active
  rcases Option.map_eq_some_iff.1 active with ⟨earlier, earlierActive, rfl⟩
  exact keeps earlier (forgotten.run earlier earlierActive)

theorem forget (other : ActorId) (run : Run) (forgets : run.Forgets actor) :
    (run.forget other).Forgets actor where
  entries := by
    intro id
    rw [Run.forget, Progress.get?_forget]
    split
    · rfl
    · exact forgets.entries id
  pairs := fun pair member => forgets.pairs pair (List.mem_of_mem_filter member)

theorem forgetTree (owner : ActorId) (node : Block) (run : Run) (forgets : run.Forgets actor) :
    (run.forgetTree owner node).Forgets actor where
  entries := by
    intro id
    rw [Run.forgetTree, Progress.get?_forgetBlocks]
    split
    · rfl
    · exact forgets.entries id
  pairs := forgets.pairs

/-! ## Edits -/

theorem spawn (forgotten : world.Forgotten actor) {fresh : ActorId} {next : World}
    (new : fresh ≠ actor) (spawned : world.spawn fresh = .ok next) : next.Forgotten actor := by
  rcases spawn_eq_ok spawned with ⟨cast, drawn, rfl⟩
  apply forgotten.of_cast
  rw [Cast.ids_spawn drawn, List.mem_append, List.mem_singleton, not_or]
  exact ⟨forgotten.unregistered, Ne.symm new⟩

theorem dismiss (forgotten : world.Forgotten actor) (other : ActorId) :
    (world.dismiss other).world.Forgotten actor := by
  rcases world.dismiss_cases other with same | ⟨removed, cast, taken, same⟩
  · rw [same]
    exact forgotten
  · rw [same]
    have kept : actor ∉ cast.ids := by
      rw [(Cast.remove_eq_ok taken).2.2]
      exact fun member => forgotten.unregistered (List.mem_of_mem_erase member)
    exact ((forgotten.of_cast kept).of_programs (forgotten.programs.erase other)).of_run
      (forget other)

theorem insert (forgotten : world.Forgotten actor) (node : Block) (parent : Option BlockId)
    (other : ActorId) : (world.insert node parent other).world.Forgotten actor := by
  rcases world.insert_cases node parent other with same | ⟨programs, present, inserted, same⟩
  · rw [same]
    exact forgotten
  · rw [same]
    exact forgotten.of_programs
      (forgotten.programs.insert (forgotten.ne_of_contains present) inserted)

theorem remove (forgotten : world.Forgotten actor) (id : BlockId) :
    (world.remove id).world.Forgotten actor := by
  rcases world.remove_edits id with same | ⟨owner, node, programs, _, removed, same⟩
  · rw [same]
    exact forgotten
  · rw [same]
    exact (forgotten.of_programs (forgotten.programs.remove removed)).of_run
      (forgetTree owner node)

theorem move (forgotten : world.Forgotten actor) (id : BlockId) (other : ActorId)
    (parent : Option BlockId) : (world.move id other parent).world.Forgotten actor := by
  rcases world.move_edits id other parent with same | ⟨present, owner, _, moved⟩
  · rw [same]
    exact forgotten
  · have left := forgotten.of_programs
      (forgotten.programs.move (forgotten.ne_of_contains present) id parent)
    rcases moved with same | ⟨node, same⟩
    · rw [same]
      exact left
    · rw [same]
      exact left.of_run (forgetTree owner node)

theorem adjust (forgotten : world.Forgotten actor) (id : BlockId) (name : String)
    (value : Parameter) : (world.adjust id name value).world.Forgotten actor := by
  rcases world.adjust_cases id name value with same | ⟨programs, adjusted, same⟩
  · rw [same]
    exact forgotten
  · rw [same]
    exact forgotten.of_programs (forgotten.programs.adjust adjusted)

/-! ## Runs -/

/-- A run has no entries of an actor without blocks when it begins. -/
theorem start (forgotten : world.Forgotten actor) : world.start.2.Forgotten actor := by
  unfold World.start
  split
  · exact forgotten
  · refine ⟨?_, forgotten.programs, ?_⟩
    · dsimp only
      rw [Cast.ids_hush]
      exact forgotten.unregistered
    · intro run active
      cases active
      refine ⟨?_, fun pair member => absurd member List.not_mem_nil⟩
      intro id
      rw [Progress.get?_start_rows world.programs.nodup_keys_programs,
        Programs.getD_lookup_programs, forgotten.programs.forest_eq_nil]
      rfl

/-- A walk of somebody else touches no entry of the actor. -/
theorem step (forgotten : world.Forgotten actor) (different : other ≠ actor) :
    (world.step other now).2.Forgotten actor := by
  have company : SameCompany world (world.step other now).2 := world.step_sameCompany
  refine ⟨?_, ?_, ?_⟩
  · rw [company.ids]
    exact forgotten.unregistered
  · rw [world.step_programs]
    exact forgotten.programs
  · intro run active
    unfold World.step at active
    split at active
    · exact forgotten.run run active
    · rename_i earlier earlierActive
      cases active
      have forgets := forgotten.run earlier earlierActive
      refine ⟨fun id => ?_, forgets.pairs⟩
      dsimp only [tickProgram]
      rw [Walk.get?_stepForest_of_notMem _ _ (Or.inl (Ne.symm different))]
      exact forgets.entries id

theorem stepPresent (forgotten : world.Forgotten actor) (other : ActorId) :
    (world.stepPresent now other).2.Forgotten actor := by
  unfold World.stepPresent
  split
  · rename_i present
    exact forgotten.step (forgotten.ne_of_contains present)
  · exact forgotten

/-- Only actors that are there collide. -/
theorem collide (forgotten : world.Forgotten actor) (pair : ActorPair) :
    (world.collide now pair).2.Forgotten actor := by
  unfold World.collide
  split
  · rename_i earlier first second active foundFirst foundSecond
    have notFirst := forgotten.ne_of_get? foundFirst
    have notSecond := forgotten.ne_of_get? foundSecond
    refine ⟨forgotten.unregistered, forgotten.programs.exchange notFirst notSecond, ?_⟩
    intro run runIs
    cases runIs
    have forgets := forgotten.run earlier active
    refine ⟨fun id => ?_, forgets.pairs⟩
    dsimp only [restart]
    rw [Progress.get?_seed_of_notMem _ _ (Or.inl (Ne.symm notSecond)),
      Progress.get?_seed_of_notMem _ _ (Or.inl (Ne.symm notFirst)), Progress.get?_forget,
      if_neg (Ne.symm notSecond), Progress.get?_forget, if_neg (Ne.symm notFirst)]
    exact forgets.entries id
  · exact forgotten

theorem sweep (forgotten : world.Forgotten actor) : (world.sweep now).2.Forgotten actor := by
  unfold World.sweep
  split
  · exact forgotten
  · rename_i earlier active
    refine collect_of_preserved (Forgotten actor) (fun pair _ before => before.collide pair) _ _ ?_
    refine ⟨forgotten.unregistered, forgotten.programs, ?_⟩
    intro run runIs
    cases runIs
    refine ⟨(forgotten.run earlier active).entries, ?_⟩
    intro pair held
    have present := ids_of_mem_pairsAmong (Debounce.mem_of_mem_held_refresh held)
    rw [← Bool.not_eq_true, ActorPair.involves_iff]
    rintro (rfl | rfl)
    · exact forgotten.unregistered present.1
    · exact forgotten.unregistered present.2

theorem tick (forgotten : world.Forgotten actor) (other : ActorId) (generation : Nat) :
    (world.tick other generation now).2.Forgotten actor := by
  rcases world.tick_cases other generation now with same | same | ⟨present, same⟩
  · rw [same]
    exact forgotten
  · rw [same]
    exact forgotten
  · rw [same]
    exact (forgotten.step (forgotten.ne_of_contains present)).sweep

theorem tickTogether (forgotten : world.Forgotten actor) :
    (world.tickTogether now).2.Forgotten actor := by
  unfold World.tickTogether
  split
  · exact forgotten
  · exact (collect_of_preserved (Forgotten actor) (fun other _ before => before.stepPresent other)
      _ _ forgotten).sweep

/-- No operation brings an actor back but one that creates it. -/
theorem apply (forgotten : world.Forgotten actor) {operation : Operation}
    (others : operation ≠ .spawn actor) : (operation.apply world).Forgotten actor := by
  cases operation with
  | spawn fresh =>
    rw [Operation.apply]
    split
    · rename_i next spawned
      exact forgotten.spawn (fun same => others (congrArg Operation.spawn same)) spawned
    · exact forgotten
  | rename other name =>
    rw [Operation.apply, rename_world]
    exact forgotten.of_cast (forgotten.unregistered_modify fun _ => rfl)
  | place other x y heading =>
    rw [Operation.apply, place_world]
    exact forgotten.of_cast (forgotten.unregistered_modify fun _ => rfl)
  | dismiss other => exact forgotten.dismiss other
  | insert node parent other => exact forgotten.insert node parent other
  | remove block => exact forgotten.remove block
  | move block other parent => exact forgotten.move block other parent
  | adjust block name value => exact forgotten.adjust block name value
  | start => exact forgotten.start
  | finish =>
    exact ⟨forgotten.unregistered, forgotten.programs,
      fun _ active => absurd active (Option.some_ne_none _).symm⟩
  | restore =>
    refine forgotten.of_cast ?_
    rw [Cast.ids_reset]
    exact forgotten.unregistered
  | tick other generation now => exact forgotten.tick other generation
  | tickTogether now => exact forgotten.tickTogether
  | sweep now => exact forgotten.sweep

theorem after_history (history : List Operation) (others : .spawn actor ∉ history) :
    forall world : World, world.Forgotten actor -> (world.after history).Forgotten actor := by
  induction history with
  | nil => exact fun _ forgotten => forgotten
  | cons operation rest step =>
    intro world forgotten
    rw [List.mem_cons, not_or] at others
    exact step others.2 _ (forgotten.apply (Ne.symm others.1))

/-- A tick of a forgotten actor does nothing. -/
theorem tick_eq (forgotten : world.Forgotten actor) (generation : Nat) (now : Instant) :
    world.tick actor generation now =
      (if world.generation? = some generation then .vacant else .outdated, world) := by
  have absent : ¬ world.cast.contains actor = true :=
    fun present => forgotten.ne_of_contains present rfl
  unfold World.tick generation?
  cases world.run with
  | none => rfl
  | some run =>
    by_cases current : run.generation = generation
    · simp [current, absent]
    · simp [current]

end Forgotten

/-! ## Leaving -/

/-- What it comes to that an actor leaves: nothing but the list of the actors
that the run drives names it any more, its blocks are nowhere, and all else is
as it was. -/
structure Dismisses (actor : ActorId) (before after : World) : Prop where
  cast : after.cast = { before.cast with
    actors := before.cast.actors.filter fun other => other.id ≠ actor }
  forests : forall other, other ≠ actor ->
    after.programs.forest other = before.programs.forest other
  entries : forall other, other ≠ actor -> forall id,
    after.entryAt? other id = before.entryAt? other id
  pairs : after.run.map (fun run => run.debounce.held) =
    before.run.map fun run => run.debounce.held.filter fun pair => !pair.involves actor
  run : SameRun before after
  radius : after.radius = before.radius
  unlocated : forall id, id ∈ Forest.ids (before.programs.forest actor) ->
    after.programs.locate id = none
  forgotten : after.Forgotten actor

/-- Whether nothing is left of what a run did with a block elsewhere: where the
block is not, it has no entry, and whatever brings it there, it starts anew. -/
structure StartsAnew (id : BlockId) (world : World) : Prop where
  unplaced : forall other, id ∉ Forest.ids (world.programs.forest other) ->
    world.entryAt? other id = none
  arrival : forall (operation : Operation) (run : Run), (operation.apply world).run = some run ->
    forall other kind, id ∉ Forest.ids (world.programs.forest other) ->
      (id, kind) ∈ Forest.kinds ((operation.apply world).programs.forest other) ->
        run.progress.entryOf other id kind = Entry.fresh kind

variable {world : World} {actor : ActorId} {id : BlockId}

theorem Coherent.startsAnew (coherent : world.Coherent) (id : BlockId) : StartsAnew id world where
  unplaced := by
    intro other absent
    unfold entryAt?
    cases active : world.run with
    | none => rfl
    | some run => exact (coherent.tracked run active).get?_eq_none absent
  arrival := by
    intro operation run active other kind absent listed
    exact ArriveAnew.apply coherent operation run active other id kind absent listed

/-- A dismissal that goes through. -/
theorem dismiss_eq_ok {gone : Actor} (done : (world.dismiss actor).outcome = .ok gone) :
    Exists fun cast => world.cast.remove actor = .ok (gone, cast) ∧
      (world.dismiss actor).world =
        { world with
          cast := cast
          programs := world.programs.erase actor
          run := world.run.map fun run => run.forget actor } := by
  unfold dismiss at done ⊢
  cases taken : world.cast.remove actor with
  | error refusal => rw [taken] at done; cases done
  | ok pair =>
    rw [taken] at done
    cases done
    exact ⟨pair.2, rfl, rfl⟩

theorem Run.forgets_forget (actor : ActorId) (run : Run) : (run.forget actor).Forgets actor where
  entries := by
    intro id
    rw [Run.forget, Progress.get?_forget, if_pos rfl]
  pairs := by
    intro pair member
    simpa using (List.mem_filter.1 member).2

/-- In a sound world, an actor that leaves is forgotten and nobody else is. -/
theorem Sound.dismisses (sound : world.Sound) {gone : Actor}
    (done : (world.dismiss actor).outcome = .ok gone) :
    Dismisses actor world (world.dismiss actor).world := by
  have run := SameRun.dismiss world actor
  rcases dismiss_eq_ok done with ⟨cast, taken, same⟩
  rcases Cast.remove_eq_ok_iff.1 taken with ⟨_, _, rfl⟩
  rw [same] at run ⊢
  refine ⟨?_, ?_, ?_, ?_, run, rfl, ?_, ?_, Programs.Unnamed.erased sound.programs.placed actor, ?_⟩
  · dsimp only
    rw [Cast.eraseP_eq_filter sound.distinct]
  · intro other different
    rw [Programs.forest_erase, if_neg different]
  · intro other different id
    unfold entryAt?
    cases world.run with
    | none => rfl
    | some run => exact (Progress.get?_forget ..).trans (if_neg different)
  · rw [Option.map_map]
    rfl
  · intro id member
    rw [Programs.locate_eq_none_iff]
    intro other placed
    rw [Programs.forest_erase] at placed
    split at placed
    · exact absurd placed List.not_mem_nil
    · rename_i different
      exact different (sound.programs.owner_unique placed member)
  · dsimp only [Cast.ids]
    rw [Cast.map_id_eraseP]
    exact fun member => (sound.distinct.mem_erase_iff.1 member).1 rfl
  · intro later active
    rcases Option.map_eq_some_iff.1 active with ⟨earlier, _, rfl⟩
    exact Run.forgets_forget actor earlier

/-- Whatever was done to a world before, and whether or not a run is active, an
actor can leave just when it is there and is not alone.  It leaves no trace
and everything else as it was.  Whatever is done next, the actor is not named
again unless another one is created under its identifier, and its ticks do
nothing.  And wherever one of its blocks is placed later, the block starts
anew.

That the actor is named nowhere includes what nobody looks at any more: entries,
held pairs and the owners of blocks.  Only the list of the actors that the run
drives is left as it is, and an actor that comes back under the same identifier
during the run is driven. -/
theorem departure_leaves_no_trace {world : World} (created : Created world)
    (history : List Operation) (allowed : world.Allows history) (actor : ActorId) :
    let reached := world.after history
    let left := (reached.dismiss actor).world
    ((Exists fun gone => (reached.dismiss actor).outcome = .ok gone) <->
      actor ∈ reached.cast.ids ∧
        Exists fun other => other ∈ reached.cast.ids ∧ other ≠ actor) ∧
      forall gone, (reached.dismiss actor).outcome = .ok gone ->
        Dismisses actor reached left ∧
          (forall later : List Operation, .spawn actor ∉ later ->
            (left.after later).Forgotten actor ∧
              forall generation now, (left.after later).tick actor generation now =
                (if (left.after later).generation? = some generation then .vacant else .outdated,
                  left.after later)) ∧
          forall later : List Operation, left.Allows later ->
            forall id, id ∈ Forest.ids (reached.programs.forest actor) ->
              StartsAnew id (left.after later) := by
  intro reached left
  have coherent : reached.Coherent := created.coherent.after_history history allowed
  refine ⟨?_, ?_⟩
  · rw [← Cast.exists_remove_iff coherent.distinct]
    constructor
    · rintro ⟨gone, done⟩
      rcases dismiss_eq_ok done with ⟨cast, taken, _⟩
      exact ⟨gone, cast, taken⟩
    · rintro ⟨gone, cast, taken⟩
      refine ⟨gone, ?_⟩
      rw [World.dismiss, taken]
  · intro gone done
    have dismisses := coherent.toSound.dismisses done
    refine ⟨dismisses, ?_, ?_⟩
    · intro later others
      have forgotten := Forgotten.after_history later others left dismisses.forgotten
      exact ⟨forgotten, forgotten.tick_eq⟩
    · intro later allowedLater id _
      exact ((coherent.dismiss actor).after_history later allowedLater).startsAnew id

section Sample

/-- The blocks of an actor that left come back at another one. -/
def sampleHeirs : List Operation :=
  [.tick ⟨Uuid.ofNat 1⟩ 1 default, .insert sampleTree none ⟨Uuid.ofNat 2⟩, .tickTogether default]

/-- An actor leaves in the middle of a run. -/
theorem sampleRun_departure :
    let world := standard ⟨Uuid.ofNat 1⟩ ⟨Uuid.ofNat 2⟩ Settings.standard 0
    let reached := world.after sampleRun
    let left := (reached.dismiss ⟨Uuid.ofNat 1⟩).world
    Created world ∧ world.Allows sampleRun ∧ Dismisses ⟨Uuid.ofNat 1⟩ reached left ∧
      (left.after sampleHeirs).Forgotten ⟨Uuid.ofNat 1⟩ ∧
      StartsAnew ⟨Uuid.ofNat 2⟩ (left.after sampleHeirs) := by
  intro world reached left
  have created : Created world := .standard _ _ _ _ (by decide)
  have allowed : world.Allows sampleRun :=
    ⟨sampleTree_allowed, trivial, trivial, trivial, trivial⟩
  have trace := departure_leaves_no_trace created sampleRun allowed ⟨Uuid.ofNat 1⟩
  have several : (⟨Uuid.ofNat 1⟩ : ActorId) ∈ reached.cast.ids ∧
      Exists fun other => other ∈ reached.cast.ids ∧ other ≠ ⟨Uuid.ofNat 1⟩ :=
    ⟨by decide, ⟨Uuid.ofNat 2⟩, by decide, by decide⟩
  rcases trace.1.2 several with ⟨gone, done⟩
  rcases trace.2 gone done with ⟨dismisses, stays, anew⟩
  have others : Operation.spawn ⟨Uuid.ofNat 1⟩ ∉ sampleHeirs := by
    simp [sampleHeirs]
  have placed : (⟨Uuid.ofNat 2⟩ : BlockId) ∈
      Forest.ids (reached.programs.forest ⟨Uuid.ofNat 1⟩) := by decide
  exact ⟨created, allowed, dismisses, (stays sampleHeirs others).1,
    anew sampleHeirs ⟨trivial, sampleTree_allowed, trivial, trivial⟩ _ placed⟩

end Sample

end World

end SpriteStage
