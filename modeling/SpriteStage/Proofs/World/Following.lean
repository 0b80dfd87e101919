import SpriteStage.Proofs.World.Lifetime
import SpriteStage.Proofs.World.Round

namespace SpriteStage

/-!
# Following a world by its events

Who knows the programs of a world before its runs can follow it by its events
alone, as long as nobody edits programs or changes who is in the cast.  The
programs are those at the beginning, exchanged pair by pair as the collisions
tell.  The bubble of an actor is what it said last since everyone fell silent,
which happens when a run begins and when the actors go back to their
baselines.
-/

/-- What an actor shows, without the time at which it began to. -/
def Actor.bubble (actor : Actor) : Option (String × Option Float) :=
  actor.speech.map fun speech => (speech.message, speech.seconds)

/-- What an event lets an actor say. -/
def Event.saidBy? (speaker : ActorId) : Event -> Option (String × Option Float)
  | .said actor message seconds => if actor = speaker then some (message, seconds) else none
  | _ => none

def saidBy (speaker : ActorId) (events : List Event) : List (String × Option Float) :=
  events.filterMap (Event.saidBy? speaker)

theorem saidBy_append (speaker : ActorId) (first second : List Event) :
    saidBy speaker (first ++ second) = saidBy speaker first ++ saidBy speaker second :=
  List.filterMap_append

theorem saidBy_event?_of_ne {speaker actor : ActorId} (different : actor ≠ speaker)
    (actions : List Action) : saidBy speaker (actions.filterMap (Action.event? actor)) = [] := by
  rw [saidBy, List.filterMap_filterMap, List.filterMap_eq_nil_iff]
  intro action _
  cases action with
  | motion command => rfl
  | look command =>
    rw [Action.event?_look]
    exact if_neg different

def lastSaid (speaker : ActorId) (events : List Event) : Option (String × Option Float) :=
  (events.filterMap (Event.saidBy? speaker)).getLast?

theorem lastSaid_append (speaker : ActorId) (first second : List Event) :
    lastSaid speaker (first ++ second) =
      (lastSaid speaker second).or (lastSaid speaker first) := by
  rw [lastSaid, List.filterMap_append, List.getLast?_append, lastSaid, lastSaid]

theorem lastSaid_append_of_none {speaker : ActorId} (heard : List Event) {events : List Event}
    (silent : lastSaid speaker events = none) :
    lastSaid speaker (heard ++ events) = lastSaid speaker heard := by
  rw [lastSaid_append, silent, Option.none_or]

namespace Operation

/-- Whether an operation edits programs or changes who is in the cast. -/
def isAuthoring : Operation -> Bool
  | .spawn _ => true
  | .dismiss _ => true
  | .insert _ _ _ => true
  | .remove _ => true
  | .move _ _ _ => true
  | .adjust _ _ _ => true
  | _ => false

/-- Whether everyone falls silent by an operation: a run begins, or all actors
go back to their baselines. -/
def silences (world : World) : Operation -> Bool
  | .start => world.run.isNone
  | .restore => true
  | _ => false

end Operation

namespace World

/-- Whether nobody is silenced by any operation of a history. -/
def Unsilenced (world : World) : List Operation -> Prop
  | [] => True
  | operation :: rest =>
    operation.silences world = false ∧ (operation.apply world).Unsilenced rest

/-- Whether every actor shows what it said last among some events. -/
def Voices (heard : List Event) (world : World) : Prop :=
  forall id actor, world.cast.get? id = some actor -> actor.bubble = lastSaid id heard

variable {world after : World} {actor : ActorId} {now : Instant} {operation : Operation}
  {heard : List Event}

/-! ## Walks -/

theorem sameCompany_walks (world : World) (walkers : List ActorId) :
    SameCompany world (collect (fun walker => step walker now) walkers world).2 :=
  collect_of_preserved (SameCompany world)
    (fun _ middle same => same.trans middle.step_sameCompany) walkers world (.refl world)

theorem walks_programs (world : World) (walkers : List ActorId) :
    (collect (fun walker => step walker now) walkers world).2.programs = world.programs :=
  collect_of_preserved (fun middle => middle.programs = world.programs)
    (fun _ middle same => middle.step_programs.trans same) walkers world rfl

theorem collidedPairs_walks (walkers : List ActorId) :
    forall world : World,
      collidedPairs (collect (fun walker => step walker now) walkers world).1 = [] := by
  induction walkers with
  | nil => exact fun _ => rfl
  | cons walker rest step =>
    intro world
    rw [collect_cons, collidedPairs_append, collidedPairs_step, step]
    rfl

theorem bubble_effect (now : Instant) (action : Action) (actor : Actor) :
    (action.effect now actor).bubble =
      (lastSaid actor.id (action.event? actor.id).toList).or actor.bubble := by
  cases action with
  | motion command => rfl
  | look command =>
    rw [Action.effect_look, Action.event?_look]
    simp [lastSaid, Event.saidBy?, Actor.saying, Actor.bubble]

/-- What an actor shows after some actions is what it said last in them, or
what it showed before. -/
theorem bubble_effects (now : Instant) (actions : List Action) :
    forall actor : Actor, (Action.effects now actions actor).bubble =
      (lastSaid actor.id (actions.filterMap (Action.event? actor.id))).or actor.bubble := by
  induction actions with
  | nil => exact fun _ => rfl
  | cons action rest step =>
    intro actor
    have later : (Action.effects now (action :: rest) actor).bubble =
        (lastSaid actor.id (rest.filterMap (Action.event? actor.id))).or
          (action.effect now actor).bubble := step (action.effect now actor)
    have all : (action :: rest).filterMap (Action.event? actor.id) =
        (action.event? actor.id).toList ++ rest.filterMap (Action.event? actor.id) := by
      rw [List.filterMap_cons]
      cases action.event? actor.id <;> rfl
    rw [later, bubble_effect, all, lastSaid_append, Option.or_assoc]

theorem lastSaid_event?_of_ne {speaker : ActorId} (different : speaker ≠ actor)
    (actions : List Action) :
    lastSaid speaker (actions.filterMap (Action.event? actor)) = none := by
  have nothing : (actions.filterMap (Action.event? actor)).filterMap (Event.saidBy? speaker) = [] :=
    saidBy_event?_of_ne (Ne.symm different) actions
  rw [lastSaid, nothing]
  rfl

namespace Voices

theorem congr (voices : Voices heard world) (sameCast : after.cast = world.cast) :
    Voices heard after := by
  unfold Voices
  rw [sameCast]
  exact voices

/-- A change of an actor that leaves its bubble alone. -/
theorem modify (voices : Voices heard world) (actor : ActorId) (change : Actor -> Actor)
    (keepsId : forall other, (change other).id = other.id)
    (keepsBubble : forall other, (change other).bubble = other.bubble) :
    Voices heard { world with cast := world.cast.modify actor change } := by
  intro id found isFound
  rw [Cast.get?_modify keepsId] at isFound
  split at isFound
  · rename_i same
    rcases Option.map_eq_some_iff.1 isFound with ⟨old, oldFound, rfl⟩
    rw [keepsBubble, same]
    exact voices actor old oldFound
  · exact voices id found isFound

theorem step (voices : Voices heard world) (actor : ActorId) (now : Instant) :
    Voices (heard ++ (world.step actor now).1) (world.step actor now).2 := by
  have carried := world.step_carries actor now
  dsimp only at carried
  intro id found isFound
  rw [carried.1, Cast.get?_modify (Action.id_effects now _)] at isFound
  rw [carried.2]
  by_cases own : id = actor
  · rw [if_pos own] at isFound
    rcases Option.map_eq_some_iff.1 isFound with ⟨old, oldFound, rfl⟩
    have there : world.cast.contains actor = true := Option.isSome_iff_exists.2 ⟨old, oldFound⟩
    rw [if_pos there, bubble_effects, lastSaid_append, Cast.id_of_get? oldFound, own,
      voices actor old oldFound]
  · rw [if_neg own] at isFound
    have silent : lastSaid id (if world.cast.contains actor then
        ((world.executedBy actor now).map Prod.snd).filterMap (Action.event? actor) else []) =
          none := by
      split
      · exact lastSaid_event?_of_ne own _
      · rfl
    rw [lastSaid_append_of_none heard silent]
    exact voices id found isFound

theorem walks (walkers : List ActorId) :
    forall {world : World} {heard : List Event}, Voices heard world ->
      Voices (heard ++ (collect (fun walker => World.step walker now) walkers world).1)
        (collect (fun walker => World.step walker now) walkers world).2 := by
  induction walkers with
  | nil =>
    intro world heard voices
    exact (List.append_nil heard).symm ▸ voices
  | cons walker rest further =>
    intro world heard voices
    have later := further (voices.step walker now)
    rw [List.append_assoc] at later
    exact later

end Voices

/-! ## Sweeps -/

theorem saidBy_collect_collide (speaker : ActorId) (pairs : List ActorPair) :
    forall world : World, saidBy speaker (collect (collide now) pairs world).1 = [] := by
  induction pairs with
  | nil => exact fun _ => rfl
  | cons pair rest step =>
    intro world
    have own : saidBy speaker (world.collide now pair).1 = [] := by
      unfold collide
      split <;> rfl
    rw [collect_cons, saidBy_append, step, own]
    rfl

theorem saidBy_sweep (speaker : ActorId) (world : World) :
    saidBy speaker (world.sweep now).1 = [] := by
  unfold sweep
  split
  · rfl
  · exact saidBy_collect_collide speaker _ _

theorem lastSaid_sweep (speaker : ActorId) (world : World) :
    lastSaid speaker (world.sweep now).1 = none :=
  congrArg List.getLast? (saidBy_sweep speaker world)

theorem sweep_programs (distinct : world.cast.ids.Nodup) :
    (world.sweep now).2.programs =
      world.programs.exchangeAll (collidedPairs (world.sweep now).1) := by
  cases active : world.run with
  | none =>
    rw [sweep, active]
    rfl
  | some run =>
    rcases sweep_collided active distinct with ⟨pairs, _, _, _, _, _, collided⟩
    rw [collided.announced]
    exact collided.programs

/-! ## Single operations -/

/-- What the events of an operation tell: who is there is the same, and the
programs are exchanged as the collisions say. -/
structure Tells (before : World) (events : List Event) (after : World) : Prop where
  ids : after.cast.ids = before.cast.ids
  programs : after.programs = before.programs.exchangeAll (collidedPairs events)

theorem Tells.append {before middle after : World} {early late : List Event}
    (one : Tells before early middle) (next : Tells middle late after) :
    Tells before (early ++ late) after where
  ids := next.ids.trans one.ids
  programs := by
    rw [next.programs, one.programs, collidedPairs_append, Programs.exchangeAll_append]

theorem round_tells (distinct : world.cast.ids.Nodup) (walkers : List ActorId) :
    Tells world (world.round walkers now).1 (world.round walkers now).2 := by
  let walked := (collect (fun walker => step walker now) walkers world).2
  have sameIds : walked.cast.ids = world.cast.ids := (world.sameCompany_walks walkers).ids
  have walksTell : Tells world (collect (fun walker => step walker now) walkers world).1 walked := by
    refine ⟨sameIds, ?_⟩
    rw [collidedPairs_walks]
    exact world.walks_programs walkers
  have sweepTells : Tells walked (walked.sweep now).1 (walked.sweep now).2 := by
    refine ⟨congrArg Cast.ids walked.sweep_cast, sweep_programs ?_⟩
    rw [sameIds]
    exact distinct
  exact walksTell.append sweepTells

theorem apply_tells (distinct : world.cast.ids.Nodup) (played : operation.isAuthoring = false) :
    Tells world (operation.events world) (operation.apply world) := by
  by_cases timed : operation.isTimed = true
  · rcases Operation.timed_cases timed with
      ⟨_, applied, announced⟩ | ⟨walkers, now, _, applied, announced⟩
    · rw [applied, announced]
      exact ⟨rfl, rfl⟩
    · rw [applied, announced]
      exact round_tells distinct walkers
  · rw [Operation.events_of_untimed timed]
    cases operation with
    | rename other name =>
      rw [Operation.apply, rename_world]
      exact ⟨Cast.ids_modify fun _ => rfl, rfl⟩
    | place other x y heading =>
      rw [Operation.apply, place_world]
      exact ⟨Cast.ids_modify fun _ => rfl, rfl⟩
    | start =>
      rw [Operation.apply, World.start]
      split
      · exact ⟨rfl, rfl⟩
      · exact ⟨Cast.ids_hush world.cast, rfl⟩
    | finish => exact ⟨rfl, rfl⟩
    | restore => exact ⟨Cast.ids_reset world.cast, rfl⟩
    | tick other generation now => exact absurd rfl timed
    | tickTogether now => exact absurd rfl timed
    | sweep now => exact absurd rfl timed
    | _ => cases played

theorem Voices.round (voices : Voices heard world) (walkers : List ActorId) :
    Voices (heard ++ (world.round walkers now).1) (world.round walkers now).2 := by
  let walked := (collect (fun walker => World.step walker now) walkers world).2
  have spoken : Voices (heard ++ (collect (fun walker => World.step walker now) walkers world).1)
      walked := voices.walks walkers
  rw [World.round, ← List.append_assoc]
  intro id found isFound
  have cast : (walked.sweep now).2.cast = walked.cast := walked.sweep_cast
  rw [lastSaid_append_of_none _ (lastSaid_sweep id walked)]
  exact spoken id found (cast ▸ isFound)

theorem Voices.apply (voices : Voices heard world) (played : operation.isAuthoring = false)
    (unsilenced : operation.silences world = false) :
    Voices (heard ++ operation.events world) (operation.apply world) := by
  by_cases timed : operation.isTimed = true
  · rcases Operation.timed_cases timed with
      ⟨_, applied, announced⟩ | ⟨walkers, now, _, applied, announced⟩
    · rw [applied, announced, List.append_nil]
      exact voices
    · rw [applied, announced]
      exact voices.round walkers
  · rw [Operation.events_of_untimed timed, List.append_nil]
    cases operation with
    | rename other name =>
      rw [Operation.apply, rename_world]
      exact voices.modify other (fun actor => actor.renamed name) (fun _ => rfl) fun _ => rfl
    | place other x y heading =>
      rw [Operation.apply, place_world]
      exact voices.modify other (fun actor => actor.placed x y (some heading)) (fun _ => rfl)
        fun _ => rfl
    | start =>
      rw [Operation.apply, World.start]
      cases active : world.run with
      | some run => exact voices
      | none =>
        rw [Operation.silences, active] at unsilenced
        cases unsilenced
    | finish => exact voices.congr rfl
    | restore => cases unsilenced
    | tick other generation now => exact absurd rfl timed
    | tickTogether now => exact absurd rfl timed
    | sweep now => exact absurd rfl timed
    | _ => cases played

/-- Everyone is silent after an operation that silences. -/
theorem voices_of_silences (silences : operation.silences world = true) :
    Voices [] (operation.apply world) := by
  have silent : forall (change : Actor -> Actor), (forall actor, (change actor).speech = none) ->
      forall (actors : List Actor) id actor,
        (actors.map change).find? (fun other => other.id = id) = some actor ->
          actor.bubble = none := by
    intro change mute actors id actor found
    rcases List.mem_map.1 (List.mem_of_find?_eq_some found) with ⟨old, _, rfl⟩
    rw [Actor.bubble, mute]
    rfl
  cases operation with
  | start =>
    rw [Operation.silences, Option.isNone_iff_eq_none] at silences
    rw [Operation.apply, World.start, silences]
    exact silent Actor.silent (fun _ => rfl) world.cast.actors
  | restore => exact silent Actor.restored (fun _ => rfl) world.cast.actors
  | _ => cases silences

/-! ## Whole histories -/

theorem after_tells (history : List Operation) :
    forall world : World, world.cast.ids.Nodup ->
      (forall operation, operation ∈ history -> operation.isAuthoring = false) ->
      Tells world (world.events history) (world.after history) := by
  induction history with
  | nil => exact fun _ _ _ => ⟨rfl, rfl⟩
  | cons operation rest step =>
    intro world distinct played
    have first := apply_tells distinct (played operation List.mem_cons_self)
    have distinctLater : (operation.apply world).cast.ids.Nodup := by
      rw [first.ids]
      exact distinct
    exact first.append (step _ distinctLater fun other member =>
      played other (List.mem_cons_of_mem _ member))

theorem Voices.persist (history : List Operation) :
    forall {world : World} {heard : List Event}, Voices heard world -> world.Unsilenced history ->
      (forall operation, operation ∈ history -> operation.isAuthoring = false) ->
      Voices (heard ++ world.events history) (world.after history) := by
  induction history with
  | nil =>
    intro world heard voices _ _
    exact (List.append_nil heard).symm ▸ voices
  | cons operation rest step =>
    intro world heard voices unsilenced played
    have first := voices.apply (played operation List.mem_cons_self) unsilenced.1
    have later := step first unsilenced.2 fun other member =>
      played other (List.mem_cons_of_mem _ member)
    rw [List.append_assoc] at later
    exact later

/-- Either no operation of a history silences, or there is a last one that
does. -/
theorem exists_last_silence (history : List Operation) :
    forall world : World, world.Unsilenced history ∨
      Exists fun early => Exists fun hush => Exists fun late =>
        history = early ++ hush :: late ∧ hush.silences (world.after early) = true ∧
          (world.after (early ++ [hush])).Unsilenced late := by
  induction history with
  | nil => exact fun _ => Or.inl trivial
  | cons operation rest step =>
    intro world
    rcases step (operation.apply world) with unsilenced | ⟨early, hush, late, rfl, silences, quiet⟩
    · cases silences : operation.silences world with
      | false => exact Or.inl ⟨silences, unsilenced⟩
      | true => exact Or.inr ⟨[], operation, rest, rfl, silences, unsilenced⟩
    · exact Or.inr ⟨operation :: early, hush, late, rfl, silences, quiet⟩

theorem idle_apply (idle : world.run = none) (notStart : operation ≠ .start) :
    (operation.apply world).run = none := by
  by_cases finish : operation = .finish
  · rw [finish]
    rfl
  · exact ((SameRun.apply world notStart finish).idle).2 idle

/-- Before anyone is silenced no run starts. -/
theorem start_notMem_of_unsilenced (history : List Operation) :
    forall world : World, world.run = none -> world.Unsilenced history ->
      .start ∉ history := by
  induction history with
  | nil => exact fun _ _ _ => List.not_mem_nil
  | cons operation rest step =>
    intro world idle unsilenced
    have notStart : operation ≠ .start := by
      rintro rfl
      have silences := unsilenced.1
      rw [Operation.silences, idle] at silences
      cases silences
    rw [List.mem_cons, not_or]
    exact ⟨Ne.symm notStart, step _ (idle_apply idle notStart) unsilenced.2⟩

/-- From a world without a run, as long as nobody edits programs or changes
who is in the cast, the programs follow from the collisions among the events.
Once a run has started, what the actors show follows from what is said among
the events since everyone fell silent the last time.

A listener who begins with the programs of the world can therefore follow both
by events alone.  Times are not part of that, and poses are not either, because no
event tells them. -/
theorem events_determine {world : World} (idle : world.run = none)
    (distinct : world.cast.ids.Nodup) (history : List Operation)
    (played : forall operation, operation ∈ history -> operation.isAuthoring = false) :
    let reached := world.after history
    reached.programs = world.programs.exchangeAll (collidedPairs (world.events history)) ∧
      (.start ∈ history ->
        Exists fun early => Exists fun hush => Exists fun late =>
          let silenced := world.after (early ++ [hush])
          history = early ++ hush :: late ∧ hush.silences (world.after early) = true ∧
            silenced.Unsilenced late ∧
            forall actor, actor ∈ reached.cast.actors ->
              actor.bubble = lastSaid actor.id (silenced.events late)) := by
  intro reached
  have told := after_tells history world distinct played
  refine ⟨told.programs, ?_⟩
  intro started
  rcases world.exists_last_silence history with
    unsilenced | ⟨early, hush, late, isHistory, silences, quiet⟩
  · exact absurd started (start_notMem_of_unsilenced history world idle unsilenced)
  · refine ⟨early, hush, late, isHistory, silences, quiet, ?_⟩
    have split : history = (early ++ [hush]) ++ late := by
      rw [isHistory, List.append_assoc]
      rfl
    have reachedFrom : reached = (world.after (early ++ [hush])).after late := by
      rw [← after_append, ← split]
    have silent : Voices [] (world.after (early ++ [hush])) := by
      rw [after_append]
      exact voices_of_silences silences
    have voices := silent.persist late quiet fun operation member => by
      apply played
      rw [split]
      exact List.mem_append_right _ member
    intro actor member
    have distinctThere : reached.cast.ids.Nodup := by
      rw [told.ids]
      exact distinct
    have found := Cast.get?_of_mem distinctThere member
    rw [reachedFrom] at found
    exact voices actor.id actor found

section Sample

def sampleTalk : List Operation :=
  [.insert ⟨⟨Uuid.ofNat 1⟩, .look (.say "first"), .nobody, none, []⟩ none ⟨Uuid.ofNat 1⟩,
    .insert ⟨⟨Uuid.ofNat 2⟩, .look (.say "second"), .nobody, none, []⟩ none ⟨Uuid.ofNat 1⟩,
    .insert ⟨⟨Uuid.ofNat 3⟩, .look (.say "other"), .nobody, none, []⟩ none ⟨Uuid.ofNat 2⟩]

/-- Two runs, the second one begun twice, with a late tick for the first one.  In
the second run one actor is brought to the other, and they collide. -/
def samplePlayback : List Operation :=
  [.start, .tickTogether default, .rename ⟨Uuid.ofNat 2⟩ "Renamed", .finish, .restore, .start,
    .tick ⟨Uuid.ofNat 2⟩ 1 default, .tick ⟨Uuid.ofNat 1⟩ 2 default, .start,
    .place ⟨Uuid.ofNat 2⟩ 10.0 0.0 90.0, .sweep default, .tick ⟨Uuid.ofNat 1⟩ 2 default]

/-- In the second run only the first actor speaks, two words of its own program
and then the word of the program that the collision gave it. -/
theorem samplePlayback_followed :
    let world := sampleApart.after sampleTalk
    world.run = none ∧ world.cast.ids.Nodup ∧
      (forall operation, operation ∈ samplePlayback -> operation.isAuthoring = false) ∧
      .start ∈ samplePlayback ∧
      (world.after samplePlayback).programs =
        world.programs.exchangeAll (collidedPairs (world.events samplePlayback)) ∧
      (Exists fun early => Exists fun hush => Exists fun late =>
        samplePlayback = early ++ hush :: late ∧
          forall actor, actor ∈ (world.after samplePlayback).cast.actors ->
            actor.bubble = lastSaid actor.id ((world.after (early ++ [hush])).events late)) ∧
      collidedPairs (world.events samplePlayback) = [⟨⟨Uuid.ofNat 1⟩, ⟨Uuid.ofNat 2⟩⟩] ∧
      ((world.after samplePlayback).programs.forest ⟨Uuid.ofNat 1⟩).map Block.id =
        [⟨Uuid.ofNat 3⟩] ∧
      ((world.after samplePlayback).programs.forest ⟨Uuid.ofNat 2⟩).map Block.id =
        [⟨Uuid.ofNat 1⟩, ⟨Uuid.ofNat 2⟩] ∧
      (world.after samplePlayback).cast.actors.map Actor.bubble = [some ("other", none), none] := by
  intro world
  have idle : world.run = none := rfl
  have distinct : world.cast.ids.Nodup := by decide
  have played : forall operation, operation ∈ samplePlayback -> operation.isAuthoring = false := by
    simp [samplePlayback, Operation.isAuthoring]
  have started : .start ∈ samplePlayback := by
    simp [samplePlayback]
  have determined := events_determine idle distinct samplePlayback played
  rcases determined.2 started with ⟨early, hush, late, split, _, _, voices⟩
  exact ⟨idle, distinct, played, started, determined.1, ⟨early, hush, late, split, voices⟩,
    by decide +kernel, by decide +kernel, by decide +kernel, by decide +kernel⟩

end Sample

end World

end SpriteStage
