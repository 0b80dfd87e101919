import SpriteStage.Proofs.World.Edit
import SpriteStage.Proofs.World.Frame
import SpriteStage.Proofs.World.History

namespace SpriteStage

/-!
# Sound worlds

A world is sound when its programs are, only actors of the cast have blocks,
and the cast is a nonempty list of actors with distinct identifiers.  A
created world is sound, and every allowed operation keeps a world sound,
whether it succeeds or is refused.  So every world that a history reaches is
sound.
-/

namespace World

/-- What holds of the programs and the cast of a world together. -/
structure Sound (world : World) : Prop where
  programs : world.programs.Sound
  registered : forall actor, world.programs.forest actor ≠ [] ->
    world.cast.contains actor = true
  populated : world.cast.ids ≠ []
  distinct : world.cast.ids.Nodup

theorem Created.sound {world : World} (created : Created world) : world.Sound := by
  have settled : forall (actors : List Actor) (settings : Settings) (entropy : UInt64),
      actors ≠ [] -> (actors.map Actor.id).Nodup ->
        (World.ofActors actors settings entropy).Sound := by
    intro actors settings entropy some distinct
    refine ⟨Programs.Sound.empty, ?_, ?_, distinct⟩
    · exact fun _ blocks => absurd rfl blocks
    · exact fun nobody => some (List.map_eq_nil_iff.1 nobody)
  cases created with
  | populated actors settings entropy _ distinct accepted =>
    unfold World.populated at accepted
    cases actors with
    | nil => cases accepted
    | cons actor rest =>
      cases accepted
      exact settled _ _ _ (List.cons_ne_nil actor rest) distinct
  | standard first second settings entropy different =>
    apply settled
    · exact List.cons_ne_nil _ _
    · simpa [Cast.standardActors, Actor.create] using different

namespace Sound

variable {world after : World} {actor : ActorId} {now : Instant}

/-- Soundness is a property of the programs and of who is in the cast. -/
theorem congr (sound : world.Sound) (samePrograms : after.programs = world.programs)
    (sameIds : after.cast.ids = world.cast.ids) : after.Sound where
  programs := samePrograms ▸ sound.programs
  registered := by
    intro actor blocks
    rw [samePrograms] at blocks
    rw [Cast.contains_iff_mem_ids, sameIds]
    exact Cast.contains_iff_mem_ids.1 (sound.registered actor blocks)
  populated := sameIds ▸ sound.populated
  distinct := sameIds ▸ sound.distinct

/-- Sound programs of actors of the cast keep a world sound. -/
theorem withPrograms (sound : world.Sound) (samePeople : after.cast = world.cast)
    (programs : after.programs.Sound)
    (registered : forall actor, after.programs.forest actor ≠ [] ->
      world.programs.forest actor ≠ [] ∨ world.cast.contains actor = true) : after.Sound where
  programs := programs
  registered := by
    intro actor blocks
    rw [samePeople]
    exact (registered actor blocks).elim (sound.registered actor) id
  populated := samePeople ▸ sound.populated
  distinct := samePeople ▸ sound.distinct

/-! ## Edits -/

theorem spawn {next : World} {fresh : ActorId} (sound : world.Sound)
    (new : fresh ∉ world.cast.ids) (spawned : world.spawn fresh = .ok next) : next.Sound := by
  rcases spawn_eq_ok spawned with ⟨cast, drawn, rfl⟩
  have ids := Cast.ids_spawn drawn
  refine ⟨sound.programs, ?_, ?_, ?_⟩
  · intro actor blocks
    rw [Cast.contains_iff_mem_ids, ids]
    exact List.mem_append_left _ (Cast.contains_iff_mem_ids.1 (sound.registered actor blocks))
  · rw [ids]
    exact List.append_ne_nil_of_left_ne_nil sound.populated [fresh]
  · rw [ids, List.nodup_append_comm]
    exact List.nodup_cons.2 ⟨new, sound.distinct⟩

theorem rename (sound : world.Sound) (actor : ActorId) (name : String) :
    (world.rename actor name).world.Sound := by
  rw [rename_world]
  exact sound.congr rfl (Cast.ids_modify fun _ => rfl)

theorem place (sound : world.Sound) (actor : ActorId) (x y heading : Float) :
    (world.place actor x y heading).world.Sound := by
  rw [place_world]
  exact sound.congr rfl (Cast.ids_modify fun _ => rfl)

/-- The program of a removed actor goes with it, and the last actor stays. -/
theorem dismiss (sound : world.Sound) (actor : ActorId) : (world.dismiss actor).world.Sound := by
  rcases world.dismiss_cases actor with same | ⟨removed, cast, taken, same⟩
  · rw [same]
    exact sound
  · rcases Cast.remove_eq_ok taken with ⟨found, several, ids⟩
    rw [same]
    refine ⟨sound.programs.erase actor, ?_, ?_, ?_⟩
    · intro other blocks
      rw [Programs.forest_erase] at blocks
      have different : other ≠ actor := by
        rintro rfl
        exact blocks (if_pos rfl)
      rw [if_neg different] at blocks
      rw [Cast.contains_iff_mem_ids, ids]
      exact (List.mem_erase_of_ne different).2
        (Cast.contains_iff_mem_ids.1 (sound.registered other blocks))
    · have member : actor ∈ world.cast.ids :=
        Cast.id_of_get? found ▸ List.mem_map_of_mem (Cast.mem_of_get? found)
      have length := List.length_erase_of_mem member
      have size : world.cast.ids.length = world.cast.size := List.length_map _
      have some := List.length_pos_of_mem member
      intro nobody
      rw [← ids, nobody, List.length_nil] at length
      omega
    · rw [ids]
      exact sound.distinct.erase actor

theorem insert (sound : world.Sound) {node : Block} (distinct : node.ids.Nodup)
    (nested : Forest.Nested [node]) (parent : Option BlockId) (actor : ActorId) :
    (world.insert node parent actor).world.Sound := by
  rcases world.insert_cases node parent actor with same | ⟨programs, present, inserted, same⟩
  · rw [same]
    exact sound
  · rw [same]
    refine sound.withPrograms rfl (sound.programs.insert distinct nested inserted) ?_
    intro other blocks
    rcases Programs.insert_eq_ok_iff.1 inserted with ⟨_, _, rfl⟩
    rw [Programs.forest_withForest] at blocks
    split at blocks
    · rename_i own
      exact Or.inr (own ▸ present)
    · exact Or.inl blocks

theorem remove (sound : world.Sound) (id : BlockId) : (world.remove id).world.Sound := by
  rcases world.remove_cases sound.programs id with same | ⟨owner, node, found, same⟩
  · rw [same]
    exact sound
  · rw [same]
    refine sound.withPrograms rfl (sound.programs.withPruned found) ?_
    intro other blocks
    rw [Programs.forest_withForest] at blocks
    split at blocks
    · rename_i own
      exact Or.inl (own ▸ Forest.ne_nil_of_find? found)
    · exact Or.inl blocks

theorem move (sound : world.Sound) (id : BlockId) (actor : ActorId) (parent : Option BlockId) :
    (world.move id actor parent).world.Sound := by
  rcases world.move_cases sound.programs id actor parent with
    same | ⟨owner, node, present, found, inserted, same⟩
  · rw [same]
    exact sound
  · rw [same]
    have pruned := sound.programs.withPruned found
    refine sound.withPrograms rfl (pruned.insert
      (Forest.nodup_ids_found (sound.programs.distinct owner) found)
      (Forest.nested_of_mem (sound.programs.nested owner) (Forest.mem_nodes_of_find? found))
      inserted) ?_
    intro other blocks
    rw [Programs.forest_withForest] at blocks
    split at blocks
    · rename_i own
      exact Or.inr (own ▸ present)
    · rw [Programs.forest_withForest] at blocks
      split at blocks
      · rename_i own
        exact Or.inl (own ▸ Forest.ne_nil_of_find? found)
      · exact Or.inl blocks

theorem adjust (sound : world.Sound) (id : BlockId) (name : String) (value : Parameter) :
    (world.adjust id name value).world.Sound := by
  rcases world.adjust_cases id name value with same | ⟨programs, adjusted, same⟩
  · rw [same]
    exact sound
  · rw [same]
    refine sound.withPrograms rfl (sound.programs.adjust adjusted) ?_
    intro other blocks
    rcases Programs.adjust_eq_ok adjusted with ⟨owner, node, kind, located, _, rfl⟩
    rw [Programs.forest_withForest] at blocks
    split at blocks
    · rename_i own
      exact Or.inl (own ▸ Forest.ne_nil_of_find? (Programs.find?_of_locate located))
    · exact Or.inl blocks

/-! ## Runs -/

theorem start (sound : world.Sound) : world.start.2.Sound := by
  unfold World.start
  split
  · exact sound
  · exact sound.congr rfl (Cast.ids_hush world.cast)

theorem step (sound : world.Sound) : (world.step actor now).2.Sound :=
  sound.congr world.step_programs (world.step_sameCompany).ids

theorem collide (sound : world.Sound) (pair : ActorPair) : (world.collide now pair).2.Sound := by
  unfold World.collide
  split
  · rename_i run first second active firstFound secondFound
    refine sound.withPrograms rfl (sound.programs.exchange pair.first pair.second) ?_
    intro other blocks
    rw [sound.programs.forest_exchange_eq_relabel] at blocks
    rw [ne_eq, Forest.relabel_eq_nil_iff] at blocks
    unfold Programs.partner at blocks
    split at blocks
    · rename_i own
      exact Or.inr (own ▸ Option.isSome_iff_exists.2 ⟨second, secondFound⟩)
    · split at blocks
      · rename_i own
        exact Or.inr (own ▸ Option.isSome_iff_exists.2 ⟨first, firstFound⟩)
      · exact Or.inl blocks
  · exact sound

theorem sweep (sound : world.Sound) : (world.sweep now).2.Sound := by
  unfold World.sweep
  split
  · exact sound
  · exact collect_of_preserved World.Sound (fun pair _ before => before.collide pair) _ _
      (sound.congr rfl rfl)

theorem stepPresent (sound : world.Sound) (actor : ActorId) :
    (world.stepPresent now actor).2.Sound := by
  unfold World.stepPresent
  split
  · exact sound.step
  · exact sound

theorem collect_stepPresent (sound : world.Sound) (actors : List ActorId) :
    (collect (World.stepPresent now) actors world).2.Sound :=
  collect_of_preserved World.Sound (fun actor _ before => before.stepPresent actor) actors world
    sound

theorem tick (sound : world.Sound) (actor : ActorId) (generation : Nat) :
    (world.tick actor generation now).2.Sound := by
  rcases world.tick_cases actor generation now with same | same | ⟨_, same⟩
  · rw [same]
    exact sound
  · rw [same]
    exact sound
  · rw [same]
    exact sound.step.sweep

theorem tickTogether (sound : world.Sound) : (world.tickTogether now).2.Sound := by
  unfold World.tickTogether
  split
  · exact sound
  · exact (sound.collect_stepPresent _).sweep

theorem apply (sound : world.Sound) (operation : Operation) (allowed : operation.Allowed world) :
    (operation.apply world).Sound := by
  cases operation with
  | spawn fresh =>
    rw [Operation.apply]
    split
    · rename_i next spawned
      exact sound.spawn allowed spawned
    · exact sound
  | rename actor name => exact sound.rename actor name
  | place actor x y heading => exact sound.place actor x y heading
  | dismiss actor => exact sound.dismiss actor
  | insert node parent actor => exact sound.insert allowed.1 allowed.2 parent actor
  | remove block => exact sound.remove block
  | move block actor parent => exact sound.move block actor parent
  | adjust block name value => exact sound.adjust block name value
  | start => exact sound.start
  | finish => exact sound.congr rfl rfl
  | restore => exact sound.congr rfl (Cast.ids_reset world.cast)
  | tick actor generation now => exact sound.tick actor generation
  | tickTogether now => exact sound.tickTogether
  | sweep now => exact sound.sweep

theorem after_history (sound : world.Sound) (history : List Operation)
    (allowed : world.Allows history) : (world.after history).Sound :=
  after_of_preserved (fun _ operation allowedNow sound => sound.apply operation allowedNow)
    history world allowed sound

end Sound

/-- Every world that an allowed history reaches is sound.

A caller owes two things: a new actor comes under an identifier that is free,
and a tree that is inserted names no block twice and has children only below
blocks that hold some.  Operations that are refused are part of the history,
and so are ticks that come too late. -/
theorem after_sound {world : World} (created : Created world) (history : List Operation)
    (allowed : world.Allows history) : (world.after history).Sound :=
  created.sound.after_history history allowed

section Sample

def sampleTree : Block :=
  ⟨⟨Uuid.ofNat 1⟩, .control (.times 3), .nobody, none,
    [⟨⟨Uuid.ofNat 2⟩, .look (.say "word"), .nobody, none, []⟩]⟩

theorem sampleTree_allowed : sampleTree.ids.Nodup ∧ Forest.Nested [sampleTree] := by
  refine ⟨by decide, ?_⟩
  simp [sampleTree, Forest.nested_cons, Forest.nested_nil, Kind.holdsBlocks]

/-- A run during which blocks come, go to another actor and go, beside some
edits that are refused. -/
def sampleHistory : List Operation :=
  [.spawn ⟨Uuid.ofNat 3⟩, .insert sampleTree none ⟨Uuid.ofNat 1⟩, .start,
    .insert ⟨⟨Uuid.ofNat 4⟩, .motion (.turn 15.0), .nobody, none, []⟩ (some ⟨Uuid.ofNat 1⟩)
      ⟨Uuid.ofNat 1⟩,
    .insert sampleTree none ⟨Uuid.ofNat 2⟩, .tickTogether default,
    .move ⟨Uuid.ofNat 4⟩ ⟨Uuid.ofNat 2⟩ none, .move ⟨Uuid.ofNat 1⟩ ⟨Uuid.ofNat 1⟩
      (some ⟨Uuid.ofNat 2⟩), .tick ⟨Uuid.ofNat 1⟩ 1 default, .remove ⟨Uuid.ofNat 2⟩,
    .dismiss ⟨Uuid.ofNat 2⟩, .sweep default, .finish, .restore]

theorem after_sampleHistory :
    let world := standard ⟨Uuid.ofNat 1⟩ ⟨Uuid.ofNat 2⟩ Settings.standard 0
    Created world ∧ world.Allows sampleHistory ∧ (world.after sampleHistory).Sound := by
  intro world
  have created : Created world := .standard _ _ _ _ (by decide)
  have new : (⟨Uuid.ofNat 3⟩ : ActorId) ∉ world.cast.ids := by
    change (⟨Uuid.ofNat 3⟩ : ActorId) ∉ [⟨Uuid.ofNat 1⟩, ⟨Uuid.ofNat 2⟩]
    decide
  have leafAllowed : forall id : BlockId,
      (Block.ids ⟨id, .motion (.turn 15.0), .nobody, none, []⟩).Nodup ∧
        Forest.Nested [⟨id, .motion (.turn 15.0), .nobody, none, []⟩] := by
    intro id
    refine ⟨List.nodup_singleton id, ?_⟩
    simp [Forest.nested_cons, Forest.nested_nil]
  have allowed : world.Allows sampleHistory :=
    ⟨new, sampleTree_allowed, trivial, leafAllowed _, sampleTree_allowed, trivial, trivial,
      trivial, trivial, trivial, trivial, trivial, trivial, trivial, trivial⟩
  exact ⟨created, allowed, after_sound created sampleHistory allowed⟩

end Sample

end World

end SpriteStage
