import SpriteStage.Proofs.Walk.Trace
import SpriteStage.Proofs.World.Soundness
import SpriteStage.Proofs.World.Sweep

namespace SpriteStage

/-!
# Several collisions at once

When several pairs of actors begin to overlap at one sweep, they exchange
their programs one pair after the other, and an actor may be in several of the
pairs.  What comes of it is the permutation of the actors that is composed of
the transpositions, in the order of the pairs.  However often an actor
exchanged its program, in the end the one that it has starts over, and nothing
is left of the progress of another.  Actors in none of the pairs are not
touched.
-/

def Involved (pairs : List ActorPair) (actor : ActorId) : Prop :=
  Exists fun pair => pair ∈ pairs ∧ pair.involves actor = true

theorem involved_append {first second : List ActorPair} {actor : ActorId} :
    Involved (first ++ second) actor <-> Involved first actor ∨ Involved second actor := by
  simp [Involved, or_and_right, exists_or]

/-! ## Progress -/

namespace Progress

/-- Whether each block of an actor has a fresh entry, and the actor has no
other entries. -/
def StartsOver (progress : Progress) (store : Programs) (actor : ActorId) : Prop :=
  forall id, progress.get? actor id =
    (Forest.find? id (store.forest actor)).map fun node => Entry.fresh node.kind

variable {progress : Progress} {store : Programs} {actor other : ActorId}

/-- What is left of a program that starts over is all of it. -/
theorem StartsOver.remaining (fresh : progress.StartsOver store actor)
    (distinct : (Forest.ids (store.forest actor)).Nodup) :
    Forest.remaining progress actor (store.forest actor) =
      Forest.schedule (store.forest actor) := by
  apply Forest.remaining_of_unstarted
  intro node member
  have listed : (node.id, node.kind) ∈ Forest.kinds (store.forest actor) :=
    List.mem_map_of_mem member
  rcases Forest.exists_find?_of_mem_kinds distinct listed with ⟨found, hit, sameKind⟩
  apply entryOf_of_some
  rw [fresh, hit, ← sameKind]
  rfl

/-- A forest that is seeded starts over, unless its actor has other entries. -/
theorem startsOver_seed (distinct : (Forest.ids (store.forest actor)).Nodup)
    (bare : forall id, id ∉ Forest.ids (store.forest actor) -> progress.get? actor id = none) :
    (progress.seed actor (store.forest actor)).StartsOver store actor := by
  intro id
  cases found : Forest.find? id (store.forest actor) with
  | none =>
    have absent := Forest.find?_eq_none_iff.1 found
    rw [get?_seed_of_notMem _ _ (Or.inr absent), bare id absent]
    rfl
  | some node => exact get?_seed_of_mem _ _ distinct (Forest.mem_kinds_of_find? found)

/-- The progress after two actors lost theirs and their programs start over. -/
def restartBoth (progress : Progress) (store : Programs) (one two : ActorId) : Progress :=
  World.restart store two (World.restart store one ((progress.forget one).forget two))

variable {one two : ActorId}

theorem startsOver_restartBoth (sound : store.Sound) (either : actor = one ∨ actor = two) :
    (progress.restartBoth store one two).StartsOver store actor := by
  have bare : forall id, ((progress.forget one).forget two).get? actor id = none := by
    intro id
    rw [get?_forget, get?_forget]
    grind
  have first : (World.restart store one ((progress.forget one).forget two)).StartsOver store one ∨
      actor = two := by
    rcases either with rfl | last
    · exact Or.inl (startsOver_seed (sound.distinct actor) fun id _ => bare id)
    · exact Or.inr last
  by_cases last : actor = two
  · rw [last] at bare ⊢
    apply startsOver_seed (sound.distinct two)
    intro id absent
    -- the first of the two may be the second as well, and then it was seeded already
    by_cases same : one = two
    · rw [World.restart, same, get?_seed_of_notMem _ _ (Or.inr absent), ← same]
      exact same ▸ bare id
    · rw [World.restart, get?_seed_of_notMem _ _ (Or.inl (Ne.symm same)), bare id]
  · have isFirst : actor = one := either.resolve_right last
    rw [isFirst] at last ⊢
    intro id
    rw [restartBoth, World.restart, get?_seed_of_notMem _ _ (Or.inl last)]
    exact first.resolve_right (isFirst ▸ last) id

theorem get?_restartBoth_of_ne (notOne : actor ≠ one) (notTwo : actor ≠ two) (id : BlockId) :
    (progress.restartBoth store one two).get? actor id = progress.get? actor id := by
  rw [restartBoth, World.restart, World.restart, get?_seed_of_notMem _ _ (Or.inl notTwo),
    get?_seed_of_notMem _ _ (Or.inl notOne), get?_forget, if_neg notTwo, get?_forget,
    if_neg notOne]

end Progress

namespace World

/-- Whether an event announces the collision of a pair, with the point halfway
between the two actors. -/
def Announces (now : Instant) (cast : Cast) (pair : ActorPair) (event : Event) : Prop :=
  Exists fun first => Exists fun second =>
    cast.get? pair.first = some first ∧ cast.get? pair.second = some second ∧
      event = .collision ⟨pair.first, pair.second,
        ((first.pose.x + second.pose.x) / 2.0, (first.pose.y + second.pose.y) / 2.0), now⟩

/-- What comes of the collisions of some pairs, one after the other. -/
structure Shuffled (pairs : List ActorPair) (now : Instant) (before : World) (run : Run)
    (events : List Event) (after : World) (later : Run) : Prop where
  active : before.run = some run
  stillActive : after.run = some later
  cast : after.cast = before.cast
  /-- One event per pair, in order. -/
  announced : List.Forall₂ (Announces now before.cast) pairs events
  /-- The programs are permuted, and only owners are rewritten. -/
  forests : forall actor, after.programs.forest actor =
    Forest.ownedBy actor (before.programs.forest (Programs.shuffle pairs actor))
  restarted : forall actor, Involved pairs actor ->
    later.progress.StartsOver after.programs actor
  untouched : forall actor, ¬ Involved pairs actor ->
    after.programs.forest actor = before.programs.forest actor ∧
      forall id, later.progress.get? actor id = run.progress.get? actor id

variable {now : Instant} {before middle after : World} {run between later : Run}
  {early late : List Event} {first second : List ActorPair}

theorem shuffled_nil (sound : before.Sound) (active : before.run = some run) :
    Shuffled [] now before run [] before run where
  active := active
  stillActive := active
  cast := rfl
  announced := .nil
  forests := fun actor => (sound.programs.placed actor).ownedBy_eq_self.symm
  restarted := by
    rintro actor ⟨pair, member, _⟩
    exact absurd member List.not_mem_nil
  untouched := fun _ _ => ⟨rfl, fun _ => rfl⟩

theorem Shuffled.append (one : Shuffled first now before run early middle between)
    (next : Shuffled second now middle between late after later) :
    Shuffled (first ++ second) now before run (early ++ late) after later where
  active := one.active
  stillActive := next.stillActive
  cast := next.cast.trans one.cast
  announced := List.rel_append one.announced (one.cast ▸ next.announced)
  forests := by
    intro actor
    rw [next.forests, one.forests, Forest.ownedBy_ownedBy, Programs.shuffle_append]
  restarted := by
    intro actor involved
    by_cases again : Involved second actor
    · exact next.restarted actor again
    · -- what started over in the first pairs is not touched by the others
      have earlier := one.restarted actor ((involved_append.1 involved).resolve_right again)
      have kept := next.untouched actor again
      intro id
      rw [kept.1, kept.2, earlier]
  untouched := by
    intro actor uninvolved
    rw [involved_append, not_or] at uninvolved
    have kept := one.untouched actor uninvolved.1
    have keptToo := next.untouched actor uninvolved.2
    exact ⟨keptToo.1.trans kept.1, fun id => (keptToo.2 id).trans (kept.2 id)⟩

/-- The collision of one pair. -/
theorem collide_shuffled (now : Instant) {pair : ActorPair} (sound : before.Sound)
    (active : before.run = some run) (hasFirst : before.cast.contains pair.first = true)
    (hasSecond : before.cast.contains pair.second = true) :
    Exists fun later => Shuffled [pair] now before run (before.collide now pair).1
      (before.collide now pair).2 later := by
  rcases Cast.exists_get?_of_contains hasFirst with ⟨first, firstFound⟩
  rcases Cast.exists_get?_of_contains hasSecond with ⟨second, secondFound⟩
  have sole : forall actor, Involved [pair] actor <-> actor = pair.first ∨ actor = pair.second := by
    intro actor
    rw [← ActorPair.involves_iff]
    constructor
    · rintro ⟨other, member, involves⟩
      rwa [← List.mem_singleton.1 member]
    · exact fun involves => ⟨pair, List.mem_singleton_self pair, involves⟩
  unfold collide
  rw [active, firstFound, secondFound]
  refine ⟨_, active, rfl, rfl, ?_, sound.programs.forest_exchange_eq_ownedBy pair, ?_, ?_⟩
  · exact .cons ⟨first, second, firstFound, secondFound, rfl⟩ .nil
  · intro actor involved
    exact Progress.startsOver_restartBoth (sound.programs.exchange pair.first pair.second)
      ((sole actor).1 involved)
  · intro actor uninvolved
    rw [sole, not_or] at uninvolved
    refine ⟨?_, ?_⟩
    · dsimp only
      rw [sound.programs.forest_exchange_eq_relabel, Programs.partner, if_neg uninvolved.2,
        if_neg uninvolved.1]
      exact Forest.placed_iff_relabel.1 (sound.programs.placed actor)
    · exact Progress.get?_restartBoth_of_ne uninvolved.1 uninvolved.2

/-- The collisions of any pairs of actors of a sound world. -/
theorem collect_collide_shuffled (now : Instant) (pairs : List ActorPair) :
    forall (before : World) (run : Run), before.Sound -> before.run = some run ->
      (forall pair, pair ∈ pairs -> before.cast.contains pair.first = true ∧
        before.cast.contains pair.second = true) ->
      Exists fun later => Shuffled pairs now before run (collect (collide now) pairs before).1
        (collect (collide now) pairs before).2 later := by
  induction pairs with
  | nil => exact fun before run sound active _ => ⟨run, shuffled_nil sound active⟩
  | cons pair rest step =>
    intro before run sound active there
    have own := there pair List.mem_cons_self
    rcases collide_shuffled now sound active own.1 own.2 with ⟨between, first⟩
    have thereToo : forall other, other ∈ rest ->
        (before.collide now pair).2.cast.contains other.first = true ∧
          (before.collide now pair).2.cast.contains other.second = true := by
      intro other member
      rw [first.cast]
      exact there other (List.mem_cons_of_mem _ member)
    rcases step _ between (sound.collide pair) first.stillActive thereToo with ⟨later, others⟩
    exact ⟨later, first.append others⟩

/-- At one sweep of a running sound world, the pairs that overlap and were not
held collide, one after the other; the programs that were exchanged start over.

Any number of pairs may collide at once, and an actor may be in any number of
them.  The pairs come in the order of the scan, which is what the composition of
the transpositions depends on.  Of the debounce set nothing is said here. -/
theorem sweep_shuffles {world : World} (sound : world.Sound) (active : world.run = some run)
    (now : Instant) :
    let pairs := (run.debounce.refresh (pairsAmong world.radius world.cast.actors)).1
    pairs.Nodup ∧
      (forall pair, pair ∈ pairs <-> world.Overlapping pair ∧ pair ∉ run.debounce.held) ∧
      Exists fun later =>
        Shuffled pairs now world run (world.sweep now).1 (world.sweep now).2 later ∧
          forall actor, Involved pairs actor ->
            let program := (world.sweep now).2.programs.forest actor
            Forest.remaining later.progress actor program = Forest.schedule program := by
  intro pairs
  have once := nodup_pairsAmong world.radius sound.distinct
  have admitted : forall pair, pair ∈ pairs <->
      world.Overlapping pair ∧ pair ∉ run.debounce.held := by
    intro pair
    exact (Debounce.mem_started_iff once).trans
      (and_congr_left fun _ => mem_pairsAmong_iff sound.distinct)
  refine ⟨Debounce.nodup_started once, admitted, ?_⟩
  let refreshed : Run :=
    { run with debounce := (run.debounce.refresh (pairsAmong world.radius world.cast.actors)).2 }
  have there : forall pair, pair ∈ pairs ->
      world.cast.contains pair.first = true ∧ world.cast.contains pair.second = true := by
    intro pair member
    rw [Cast.contains_iff_mem_ids, Cast.contains_iff_mem_ids]
    exact ((admitted pair).1 member).1.present
  rcases collect_collide_shuffled now pairs { world with run := some refreshed } refreshed
    (sound.congr rfl rfl) rfl there with ⟨later, shuffled⟩
  have swept : world.sweep now =
      collect (collide now) pairs { world with run := some refreshed } := by
    rw [sweep, active]
  rw [swept]
  refine ⟨later, ⟨active, shuffled.stillActive, shuffled.cast, shuffled.announced,
    shuffled.forests, shuffled.restarted, shuffled.untouched⟩, ?_⟩
  intro actor involved
  refine (shuffled.restarted actor involved).remaining ?_
  rw [← swept]
  exact (sound.sweep).programs.distinct actor

section Sample

def sampleCrowded : World :=
  World.ofActors
    [Actor.create ⟨Uuid.ofNat 1⟩ "First" (Pose.facing 0.0 0.0 90.0) "#FF5722",
      Actor.create ⟨Uuid.ofNat 2⟩ "Second" (Pose.facing 0.0 0.0 90.0) "#2196F3",
      Actor.create ⟨Uuid.ofNat 3⟩ "Third" (Pose.facing 0.0 0.0 90.0) "#4CAF50"]
    Settings.standard 0

/-- Two of the three have a program, and a run is active. -/
def sampleParts : List Operation :=
  [.insert sampleTree none ⟨Uuid.ofNat 1⟩,
    .insert ⟨⟨Uuid.ofNat 3⟩, .motion (.turn 15.0), .nobody, none, []⟩ none ⟨Uuid.ofNat 2⟩, .start]

/-- All three pairs collide.  The loop of the first goes to the second and from
there to the third; the turn of the second goes round and comes back to it. -/
theorem sampleCrowded_shuffles :
    let world := sampleCrowded.after sampleParts
    let swept := (world.sweep default).2
    world.Sound ∧
      (Exists fun run => world.run = some run ∧
        let pairs := (run.debounce.refresh (pairsAmong world.radius world.cast.actors)).1
        pairs = [⟨⟨Uuid.ofNat 1⟩, ⟨Uuid.ofNat 2⟩⟩, ⟨⟨Uuid.ofNat 1⟩, ⟨Uuid.ofNat 3⟩⟩,
            ⟨⟨Uuid.ofNat 2⟩, ⟨Uuid.ofNat 3⟩⟩] ∧
          Exists fun later =>
            Shuffled pairs default world run (world.sweep default).1 swept later) ∧
      (swept.programs.forest ⟨Uuid.ofNat 1⟩).map Block.id = [] ∧
      (swept.programs.forest ⟨Uuid.ofNat 2⟩).map Block.id = [⟨Uuid.ofNat 3⟩] ∧
      (swept.programs.forest ⟨Uuid.ofNat 3⟩).map Block.id = [⟨Uuid.ofNat 1⟩] := by
  intro world swept
  have distinct : sampleCrowded.cast.ids.Nodup := by decide
  have created : Created sampleCrowded :=
    .populated sampleCrowded.cast.actors Settings.standard 0 _ distinct rfl
  have leafNested : Forest.Nested
      [⟨⟨Uuid.ofNat 3⟩, .motion (.turn 15.0), .nobody, none, []⟩] := by
    simp [Forest.nested_cons, Forest.nested_nil]
  have sound : world.Sound := created.sound.after_history sampleParts
    ⟨sampleTree_allowed, ⟨List.nodup_singleton _, leafNested⟩, trivial, trivial⟩
  have active : world.run = some (world.run.get (by decide +kernel)) := (Option.some_get _).symm
  rcases (sweep_shuffles sound active default).2.2 with ⟨later, shuffled, _⟩
  exact ⟨sound, ⟨_, active, by decide +kernel, later, shuffled⟩, by decide +kernel,
    by decide +kernel, by decide +kernel⟩

end Sample

end World

end SpriteStage
