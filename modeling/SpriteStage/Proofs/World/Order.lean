import SpriteStage.Proofs.World.Agreement
import SpriteStage.Proofs.World.Soundness

namespace SpriteStage

/-!
# The order of a common tick

In a common tick all driven actors walk, one after the other, and then there
is one sweep.  The order in which they walk makes no difference to anything
but the order in which what they say is announced.  The times of the events
and of the bubbles are left out of the comparison, and the two ticks need not
be at the same time.

Each actor fares as if it walked alone, so every actor agrees in both orders
after the walks.  Worlds in which every actor agrees look alike as a whole,
and the sweep of one does the same as the sweep of the other.
-/

/-- The actor without the time at which its bubble began to show. -/
def Actor.undated (actor : Actor) : Actor :=
  { actor with speech := actor.speech.map fun speech => { speech with spokenAt := .epoch } }

def Cast.undated (cast : Cast) : Cast := { cast with actors := cast.actors.map Actor.undated }

/-- Who collided and where, if an event is a collision. -/
def Event.meeting? : Event -> Option (ActorPair × (Float × Float))
  | .collision event => some (⟨event.first, event.second⟩, event.midpoint)
  | _ => none

/-- Who says what for how long, if an event is about that. -/
def Event.speech? : Event -> Option (ActorId × String × Option Float)
  | .said actor message seconds => some (actor, message, seconds)
  | _ => none

/-- The collisions among some events, in order and without their times. -/
def meetings (events : List Event) : List (ActorPair × (Float × Float)) :=
  events.filterMap Event.meeting?

def speeches (events : List Event) : List (ActorId × String × Option Float) :=
  events.filterMap Event.speech?

theorem meetings_append (first second : List Event) :
    meetings (first ++ second) = meetings first ++ meetings second := List.filterMap_append

theorem collidedPairs_eq_meetings (events : List Event) :
    collidedPairs events = (meetings events).map Prod.fst := by
  rw [collidedPairs, meetings, List.map_filterMap]
  congr 1
  funext event
  cases event <;> rfl

/-- The value of a pair under a key. -/
def valueAt {Key Value : Type} [DecidableEq Key] (key : Key) (pair : Key × Value) : Option Value :=
  if pair.1 = key then some pair.2 else none

theorem count_pairs {Key Value : Type} [DecidableEq Key] [DecidableEq Value] (key : Key)
    (value : Value) (pairs : List (Key × Value)) :
    pairs.count (key, value) = (pairs.filterMap (valueAt key)).count value := by
  induction pairs with
  | nil => rfl
  | cons pair rest step =>
    rcases pair with ⟨own, held⟩
    rw [List.count_cons, step]
    by_cases same : own = key
    · have kept : valueAt key (own, held) = some held := if_pos same
      rw [List.filterMap_cons_some kept, List.count_cons, same]
      simp only [beq_iff_eq, Prod.mk.injEq, true_and]
    · have dropped : valueAt key (own, held) = none := if_neg same
      rw [List.filterMap_cons_none dropped, if_neg, Nat.add_zero]
      simp only [beq_iff_eq, Prod.mk.injEq, same, false_and, not_false_eq_true]

/-- Lists of pairs with the same values under each key differ only in their
order. -/
theorem perm_of_values {Key Value : Type} [DecidableEq Key] [DecidableEq Value]
    {first second : List (Key × Value)}
    (same : forall key, first.filterMap (valueAt key) = second.filterMap (valueAt key)) :
    first.Perm second := by
  rw [List.perm_iff_count]
  rintro ⟨key, value⟩
  rw [count_pairs, count_pairs, same]

theorem saidBy_eq_speeches (actor : ActorId) (events : List Event) :
    saidBy actor events = (speeches events).filterMap (valueAt actor) := by
  rw [saidBy, speeches, List.filterMap_filterMap]
  congr 1
  funext event
  cases event <;> rfl

/-- How an actor looks without the time of its bubble does not depend on when
it acts. -/
theorem consistent_undated : Consistent Actor.undated where
  act := by
    intro action now later one other same
    have undated : forall (instant : Instant) (actor : Actor),
        (action.effect instant actor).undated = action.effect .epoch actor.undated := by
      intro instant actor
      cases action with
      | motion command => rfl
      | look command => cases command <;> rfl
    rw [undated now, undated later, same]
  place := by
    intro x y heading one other same
    have undated : forall actor : Actor, (actor.placed x y (some heading)).undated =
        (actor.undated.placed x y (some heading)) := fun _ => rfl
    rw [undated, undated, same]

theorem Cast.get?_undated (cast : Cast) (id : ActorId) :
    cast.undated.get? id = (cast.get? id).map Actor.undated := List.find?_map ..

theorem Cast.contains_undated (cast : Cast) (id : ActorId) :
    cast.undated.contains id = cast.contains id := by
  rw [Cast.contains, Cast.get?_undated, Option.isSome_map, Cast.contains]

/-- Casts that differ only in times still do after an actor of them acts, also
at different times. -/
theorem Cast.undated_modify {one other : Cast} (same : one.undated = other.undated)
    (id : ActorId) (now later : Instant) (actions : List Action) :
    (one.modify id (Action.effects now actions)).undated =
      (other.modify id (Action.effects later actions)).undated := by
  have actors : forall first second : List Actor,
      first.map Actor.undated = second.map Actor.undated ->
        (modifyFirst id (Action.effects now actions) first).map Actor.undated =
          (modifyFirst id (Action.effects later actions) second).map Actor.undated := by
    intro first
    induction first with
    | nil =>
      intro second empty
      rw [List.map_nil, eq_comm, List.map_eq_nil_iff] at empty
      rw [empty, modifyFirst, modifyFirst]
    | cons actor rest step =>
      intro second lists
      rw [List.map_cons, eq_comm, List.map_eq_cons_iff] at lists
      rcases lists with ⟨like, others, rfl, looks, sameRest⟩
      have sameId : like.id = actor.id := (congrArg Actor.id looks :)
      rw [modifyFirst, modifyFirst, sameId]
      split
      · rw [List.map_cons, List.map_cons, sameRest]
        exact congrArg (· :: _)
          (consistent_undated.acts now later actions actor like looks.symm)
      · rw [List.map_cons, List.map_cons, step others sameRest.symm, looks]
  have sameActors := actors one.actors other.actors (congrArg Cast.actors same :)
  have sameDraws : one.draws = other.draws := (congrArg Cast.draws same :)
  have sameSpread : one.spread = other.spread := (congrArg Cast.spread same :)
  simp only [Cast.undated, Cast.modify, sameActors, sameDraws, sameSpread]

theorem pairsWith_undated (radius : Float) (actor : Actor) (others : List Actor) :
    pairsWith actor.undated (others.map Actor.undated) radius = pairsWith actor others radius := by
  rw [pairsWith, pairsWith, List.filter_map, List.map_map]
  rfl

theorem pairsAmong_undated (radius : Float) (actors : List Actor) :
    pairsAmong radius (actors.map Actor.undated) = pairsAmong radius actors := by
  induction actors with
  | nil => rfl
  | cons actor rest step =>
    rw [List.map_cons, pairsAmong, pairsAmong, pairsWith_undated, step]

namespace World

variable {world first second : World} {now later : Instant} {actor : ActorId}

/-- Whether two worlds are the same but for the times of the bubbles, the
actors that the run drives and the order of entries. -/
structure LookAlike (first second : World) : Prop where
  cast : first.cast.undated = second.cast.undated
  programs : first.programs = second.programs
  radius : first.radius = second.radius
  debounce : first.run.map Run.debounce = second.run.map Run.debounce
  entries : forall actor block, first.entryAt? actor block = second.entryAt? actor block

/-! ## Walks -/

theorem step_radius (world : World) (actor : ActorId) (now : Instant) :
    (world.step actor now).2.radius = world.radius := by
  unfold step
  split <;> rfl

/-- What walks leave alone in a cast. -/
theorem walks_draws (now : Instant) (world : World) (walkers : List ActorId) :
    let walked := (collect (fun walker => step walker now) walkers world).2
    walked.cast.draws = world.cast.draws ∧ walked.cast.spread = world.cast.spread ∧
      walked.radius = world.radius := by
  refine collect_of_preserved (fun middle => middle.cast.draws = world.cast.draws ∧
    middle.cast.spread = world.cast.spread ∧ middle.radius = world.radius) ?_ walkers world
    ⟨rfl, rfl, rfl⟩
  intro walker middle same
  have carried := (middle.step_carries walker now).1
  rw [carried, middle.step_radius]
  exact same

/-- Casts of the same actors in the same order are the same if each of the
actors looks the same. -/
theorem map_actors_eq {View : Type} {view : Actor -> View} {one other : Cast}
    (sameIds : one.ids = other.ids) (distinct : one.ids.Nodup)
    (seen : forall id, (one.get? id).map view = (other.get? id).map view) :
    one.actors.map view = other.actors.map view := by
  have byIds : forall cast : Cast, cast.ids.Nodup ->
      (cast.actors.map view).map some = cast.ids.map fun id => (cast.get? id).map view := by
    intro cast once
    rw [Cast.ids, List.map_map, List.map_map]
    apply List.map_congr_left
    intro actor member
    exact (congrArg (Option.map view) (Cast.get?_of_mem once member)).symm
  have lists := byIds one distinct
  rw [funext seen, sameIds, ← byIds other (sameIds ▸ distinct)] at lists
  exact List.map_injective_iff.2 (fun _ _ => Option.some.inj) lists

/-- Worlds in which every actor agrees, after walks of the same actors in two
orders. -/
theorem walks_perm {run : Run} (active : world.run = some run) (distinct : world.cast.ids.Nodup)
    (now later : Instant) {walkers reordered : List ActorId} (permuted : reordered.Perm walkers)
    (driven : List ActorId) :
    let start := { world with run := some { run with driven := driven } }
    let together := collect (fun walker => step walker now) walkers world
    let otherwise := collect (fun walker => step walker later) reordered start
    LookAlike together.2 otherwise.2 ∧
      forall actor, saidBy actor together.1 = saidBy actor otherwise.1 := by
  intro start together otherwise
  have each : forall actor, AgreeOn Actor.undated actor together.2 otherwise.2 ∧
      saidBy actor together.1 = saidBy actor otherwise.1 := by
    intro actor
    have startAgrees : AgreeOn Actor.undated actor start world :=
      ⟨by rw [active]; rfl, rfl, rfl, fun _ => by rw [entryAt?, entryAt?, active]; rfl⟩
    have itself : AgreeOn Actor.undated actor world world := .refl world
    have one := itself.walks consistent_undated now .epoch walkers
    have two := startAgrees.walks consistent_undated later .epoch reordered
    rw [permuted.count_eq actor] at two
    exact ⟨one.1.trans two.1.symm, one.2.trans two.2.symm⟩
  have company : SameCompany world together.2 := sameCompany_walks world walkers
  have otherCompany : SameCompany start otherwise.2 := sameCompany_walks start reordered
  have kept := walks_draws now world walkers
  have otherKept := walks_draws later start reordered
  have actors := map_actors_eq (company.ids.trans otherCompany.ids.symm)
    (company.ids.symm ▸ distinct) fun id => (each id).1.seen
  refine ⟨⟨?_, ?_, ?_, ?_, ?_⟩, fun actor => (each actor).2⟩
  · rw [Cast.undated, Cast.undated, actors, kept.1, kept.2.1, otherKept.1, otherKept.2.1]
  · exact (world.walks_programs walkers).trans (start.walks_programs reordered).symm
  · exact kept.2.2.trans otherKept.2.2.symm
  · rw [company.debounce, otherCompany.debounce, active]
    rfl
  · exact fun actor block => (each actor).1.entries block

/-! ## Sweeps -/

theorem collide_of_absent {pair : ActorPair} (absent : ¬ (world.cast.contains pair.first = true ∧
    world.cast.contains pair.second = true)) : world.collide now pair = ([], world) := by
  unfold World.collide
  split
  · rename_i run one two _ oneFound twoFound
    exact absurd ⟨Option.isSome_iff_exists.2 ⟨one, oneFound⟩,
      Option.isSome_iff_exists.2 ⟨two, twoFound⟩⟩ absent
  · rfl

namespace LookAlike

/-- The run of a world that looks alike, with the same entries and debounce set. -/
theorem exists_run (alike : LookAlike first second) {run : Run} (active : first.run = some run) :
    Exists fun other => second.run = some other ∧ run.debounce = other.debounce ∧
      forall actor, Progress.Alike actor run.progress other.progress := by
  have debounce := alike.debounce
  rw [active, Option.map_some, eq_comm, Option.map_eq_some_iff] at debounce
  rcases debounce with ⟨other, otherActive, same⟩
  refine ⟨other, otherActive, same.symm, ?_⟩
  intro actor block
  have entries := alike.entries actor block
  rw [entryAt?, entryAt?, active, otherActive] at entries
  exact entries

/-- Programs that start over start over alike. -/
theorem restart {one other : Progress} (alike : forall actor, Progress.Alike actor one other)
    (programs : Programs) (starter : ActorId) :
    forall actor, Progress.Alike actor (World.restart programs starter one)
      (World.restart programs starter other) := by
  intro actor
  by_cases own : actor = starter
  · rw [own]
    exact Progress.Alike.seed _ (alike starter)
  · intro block
    rw [World.restart, World.restart, Progress.get?_seed_of_notMem _ _ (Or.inl own),
      Progress.get?_seed_of_notMem _ _ (Or.inl own)]
    exact alike actor block

theorem forget {one other : Progress} (alike : forall actor, Progress.Alike actor one other)
    (gone : ActorId) :
    forall actor, Progress.Alike actor (one.forget gone) (other.forget gone) := by
  intro actor block
  rw [Progress.get?_forget, Progress.get?_forget, alike actor block]

theorem get?_undated (alike : LookAlike first second) (id : ActorId) :
    (first.cast.get? id).map Actor.undated = (second.cast.get? id).map Actor.undated := by
  rw [← Cast.get?_undated, ← Cast.get?_undated, alike.cast]

/-- An actor is found in both worlds, and in the same pose. -/
theorem exists_get? (alike : LookAlike first second) {id : ActorId} {one : Actor}
    (found : first.cast.get? id = some one) :
    Exists fun other => second.cast.get? id = some other ∧ one.pose = other.pose := by
  have same := alike.get?_undated id
  rw [found, Option.map_some, eq_comm, Option.map_eq_some_iff] at same
  rcases same with ⟨other, otherFound, looks⟩
  exact ⟨other, otherFound, (congrArg Actor.pose looks).symm⟩

theorem contains (alike : LookAlike first second) (id : ActorId) :
    first.cast.contains id = second.cast.contains id := by
  have present := congrArg Option.isSome (alike.get?_undated id)
  rwa [Option.isSome_map, Option.isSome_map] at present

theorem idle (alike : LookAlike first second) (none : first.run = none) : second.run = .none := by
  have debounce := alike.debounce
  rwa [none, Option.map_none, eq_comm, Option.map_eq_none_iff] at debounce

theorem collide (alike : LookAlike first second) (now later : Instant) (pair : ActorPair) :
    LookAlike (first.collide now pair).2 (second.collide later pair).2 ∧
      meetings (first.collide now pair).1 = meetings (second.collide later pair).1 := by
  cases active : first.run with
  | none =>
    rw [World.collide, World.collide, active, alike.idle active]
    exact ⟨alike, rfl⟩
  | some run =>
    rcases alike.exists_run active with ⟨other, otherActive, debounce, entries⟩
    by_cases there : first.cast.contains pair.first = true ∧ first.cast.contains pair.second = true
    · rcases Cast.exists_get?_of_contains there.1 with ⟨one, oneFound⟩
      rcases Cast.exists_get?_of_contains there.2 with ⟨two, twoFound⟩
      rcases alike.exists_get? oneFound with ⟨likeOne, likeOneFound, samePoseOne⟩
      rcases alike.exists_get? twoFound with ⟨likeTwo, likeTwoFound, samePoseTwo⟩
      have started := restart (restart (forget (forget entries pair.first) pair.second)
        (first.programs.exchange pair.first pair.second) pair.first)
        (first.programs.exchange pair.first pair.second) pair.second
      rw [World.collide, World.collide, active, otherActive, oneFound, twoFound, likeOneFound,
        likeTwoFound, ← alike.programs]
      dsimp only
      rw [samePoseOne, samePoseTwo]
      exact ⟨⟨alike.cast, rfl, alike.radius, congrArg some debounce, started⟩, rfl⟩
    · have gone := there
      rw [alike.contains, alike.contains] at gone
      rw [collide_of_absent there, collide_of_absent gone]
      exact ⟨alike, rfl⟩

theorem collect_collide (now later : Instant) (pairs : List ActorPair) :
    forall {first second : World}, LookAlike first second ->
      LookAlike (collect (World.collide now) pairs first).2
          (collect (World.collide later) pairs second).2 ∧
        meetings (collect (World.collide now) pairs first).1 =
          meetings (collect (World.collide later) pairs second).1 := by
  induction pairs with
  | nil => exact fun alike => ⟨alike, rfl⟩
  | cons pair rest step =>
    intro first second alike
    have one := alike.collide now later pair
    have next := step one.1
    rw [collect_cons, collect_cons, meetings_append, meetings_append, one.2, next.2]
    exact ⟨next.1, rfl⟩

/-- Worlds that look alike are swept alike, also at different times. -/
theorem sweep (alike : LookAlike first second) (now later : Instant) :
    LookAlike (first.sweep now).2 (second.sweep later).2 ∧
      meetings (first.sweep now).1 = meetings (second.sweep later).1 := by
  cases active : first.run with
  | none =>
    rw [World.sweep, World.sweep, active, alike.idle active]
    exact ⟨alike, rfl⟩
  | some run =>
    rcases alike.exists_run active with ⟨other, otherActive, debounce, entries⟩
    have actors := congrArg Cast.actors alike.cast
    have pairs : pairsAmong first.radius first.cast.actors =
        pairsAmong second.radius second.cast.actors := by
      rw [← pairsAmong_undated first.radius, ← pairsAmong_undated second.radius, alike.radius]
      exact congrArg _ actors
    rw [World.sweep, World.sweep, active, otherActive]
    dsimp only
    rw [pairs, debounce]
    exact collect_collide now later _
      ⟨alike.cast, alike.programs, alike.radius, rfl, entries⟩

end LookAlike

/-! ## Whole ticks -/

/-- Whether two ticks came to the same: the worlds after them look alike, the
same collisions were announced in the same order, and every actor said the
same in the same order. -/
structure SameTick (one other : List Event × World) : Prop where
  alike : LookAlike one.2 other.2
  meetings : meetings one.1 = meetings other.1
  said : forall actor, saidBy actor one.1 = saidBy actor other.1

/-- What is said in two such ticks differs only in its order. -/
theorem SameTick.speeches_perm {one other : List Event × World} (same : SameTick one other) :
    (speeches one.1).Perm (speeches other.1) := by
  apply perm_of_values
  intro actor
  rw [← saidBy_eq_speeches, ← saidBy_eq_speeches, same.said]

theorem meetings_walks (walkers : List ActorId) (world : World) :
    SpriteStage.meetings (collect (fun walker => step walker now) walkers world).1 = [] := by
  have none : collidedPairs (collect (fun walker => step walker now) walkers world).1 = [] :=
    collidedPairs_walks walkers world
  rwa [collidedPairs_eq_meetings, List.map_eq_nil_iff] at none

theorem tickTogether_eq_round {run : Run} (active : world.run = some run) (now : Instant) :
    world.tickTogether now = world.round (run.driven.filter world.cast.contains) now := by
  rw [tickTogether, active]
  dsimp only
  rw [collect_stepPresent_eq, round]

/-- In whatever order the driven actors walk in a common tick, the tick comes to
the same.

The list is permuted as a whole, with actors that are gone and with repetitions
if there are any.  Times may differ between the two ticks and are not compared.
What each actor says keeps its order; only the turns of the actors are mixed. -/
theorem tick_order_does_not_matter {world : World} (sound : world.Sound) {run : Run}
    (active : world.run = some run) {reordered : List ActorId}
    (permuted : reordered.Perm run.driven) (now later : Instant) :
    let otherwise := { world with run := some { run with driven := reordered } }
    SameTick (world.tickTogether now) (otherwise.tickTogether later) ∧
      (speeches (world.tickTogether now).1).Perm (speeches (otherwise.tickTogether later).1) := by
  intro otherwise
  have ticks : SameTick (world.tickTogether now) (otherwise.tickTogether later) := by
    have walked := walks_perm active sound.distinct now later
      (permuted.filter world.cast.contains) reordered
    have swept := walked.1.sweep now later
    rw [tickTogether_eq_round active, tickTogether_eq_round rfl, round, round]
    refine ⟨swept.1, ?_, ?_⟩
    · rw [meetings_append, meetings_append, meetings_walks, meetings_walks]
      exact swept.2
    · intro actor
      rw [saidBy_append, saidBy_append, saidBy_sweep, saidBy_sweep, List.append_nil,
        List.append_nil]
      exact walked.2 actor
  exact ⟨ticks, ticks.speeches_perm⟩

section Sample

def sampleWordEach : List Operation :=
  [.insert (sampleWord 10 "near") none ⟨Uuid.ofNat 1⟩,
    .insert (sampleWord 20 "far") none ⟨Uuid.ofNat 2⟩, .start]

/-- In the other order the far actor speaks first, and nothing else is different. -/
theorem sampleWordEach_in_any_order :
    let reached := sampleApart.after sampleWordEach
    let reordered : List ActorId := [⟨Uuid.ofNat 2⟩, ⟨Uuid.ofNat 1⟩]
    reached.Sound ∧ Exists fun run => reached.run = some run ∧ reordered.Perm run.driven ∧
      let otherwise := { reached with run := some { run with driven := reordered } }
      SameTick (reached.tickTogether default) (otherwise.tickTogether default) ∧
        speeches (reached.tickTogether default).1 =
          [(⟨Uuid.ofNat 1⟩, "near", none), (⟨Uuid.ofNat 2⟩, "far", none)] ∧
        speeches (otherwise.tickTogether default).1 =
          [(⟨Uuid.ofNat 2⟩, "far", none), (⟨Uuid.ofNat 1⟩, "near", none)] := by
  intro reached reordered
  have sound : reached.Sound :=
    sampleApart_created.sound.after_history sampleWordEach
      ⟨sampleWord_allowed 10 "near", sampleWord_allowed 20 "far", trivial, trivial⟩
  have active : reached.run = some (reached.run.get (by decide +kernel)) := (Option.some_get _).symm
  have permuted : reordered.Perm (reached.run.get (by decide +kernel)).driven := by decide +kernel
  have same := tick_order_does_not_matter sound active permuted default default
  exact ⟨sound, _, active, permuted, same.1, by decide +kernel, by decide +kernel⟩

end Sample

end World

end SpriteStage
