import SpriteStage.Proofs.World.Edit
import SpriteStage.Proofs.World.History
import SpriteStage.Proofs.World.Sweep

namespace SpriteStage

/-!
# Encounters during a run

The collisions of a run are the beginnings of overlaps, as far as its sweeps
see them.  A sweep announces just the pairs that overlap and did not overlap
at the sweep before it, and the debounce set holds the pairs that overlap.

Between two sweeps the debounce set is the set of the last one, less the pairs
of actors that are gone.  An actor that is gone does not come back, since new
actors have new identifiers, and so the pairs that were dropped with it are
not missed.
-/

/-- A sweep during a run: the world before the operation that sweeps, the
events of the operation, and the world after it.  A sweep leaves the cast as
it is, so the world after it shows what it saw. -/
structure Sweep where
  before : World
  events : List Event
  after : World

namespace Operation

/-- The sweep of an operation, if it sweeps.  A tick that is outdated or whose
actor is gone does not. -/
def sweep? (world : World) : Operation -> Option Sweep
  | .tick actor generation now =>
    match world.tick actor generation now with
    | (.acted events, after) => some ⟨world, events, after⟩
    | _ => none
  | .tickTogether now => some ⟨world, (world.tickTogether now).1, (world.tickTogether now).2⟩
  | .sweep now => some ⟨world, (world.sweep now).1, (world.sweep now).2⟩
  | _ => none

/-- The identifier that an operation names a new actor by. -/
def fresh? : Operation -> Option ActorId
  | .spawn fresh => some fresh
  | _ => none

end Operation

namespace World

def sweeps (world : World) : List Operation -> List Sweep
  | [] => []
  | operation :: rest => (operation.sweep? world).toList ++ (operation.apply world).sweeps rest

end World

/-- A sweep that detects which overlaps are new: those of pairs that did not
overlap before.  It announces each of them once and lets the two actors
exchange their programs, and it holds all pairs that overlap. -/
structure Sweep.Detects (previous : ActorPair -> Prop) (sweep : Sweep) : Prop where
  once : (collidedPairs sweep.events).Nodup
  begun : forall pair, pair ∈ collidedPairs sweep.events <->
    sweep.after.Overlapping pair ∧ ¬ previous pair
  held : Exists fun run => sweep.after.run = some run ∧ run.debounce.held.Nodup ∧
    forall pair, pair ∈ run.debounce.held <-> sweep.after.Overlapping pair
  exchanged : sweep.after.programs =
    sweep.before.programs.exchangeAll (collidedPairs sweep.events)

/-- Each of some sweeps detects what is new since the one before it. -/
def DetectEdges (previous : ActorPair -> Prop) : List Sweep -> Prop
  | [] => True
  | sweep :: rest => sweep.Detects previous ∧ DetectEdges sweep.after.Overlapping rest

namespace World

variable {world after : World} {now : Instant} {previous : ActorPair -> Prop}
  {future : List ActorId} {actor fresh : ActorId}

/-- What is known between two sweeps of a run.  Here `previous` are the pairs
that overlapped at the last sweep, and `future` are the actors still to come. -/
structure Watches (previous : ActorPair -> Prop) (future : List ActorId) (world : World) :
    Prop where
  distinct : (world.cast.ids ++ future).Nodup
  held : Exists fun debounce : Debounce => world.run.map Run.debounce = some debounce ∧
    debounce.held.Nodup ∧ forall pair, pair ∈ debounce.held <->
      previous pair ∧ pair.first ∈ world.cast.ids ∧ pair.second ∈ world.cast.ids
  past : forall pair, previous pair -> pair.first ∉ future ∧ pair.second ∉ future

namespace Watches

theorem congr (watched : Watches previous future world) (same : SameCompany world after) :
    Watches previous future after where
  distinct := by
    rw [same.ids]
    exact watched.distinct
  held := by
    rw [same.ids, same.debounce]
    exact watched.held
  past := watched.past

theorem start (idle : world.run = none) (distinct : (world.cast.ids ++ future).Nodup) :
    Watches (fun _ => False) future world.start.2 := by
  unfold World.start
  rw [idle]
  refine ⟨?_, ⟨Debounce.empty, rfl, List.nodup_nil, ?_⟩, fun _ impossible => impossible.elim⟩
  · change (world.cast.hush.ids ++ future).Nodup
    rw [Cast.ids_hush]
    exact distinct
  · intro pair
    simp [Debounce.empty]

/-- A pair that overlapped before does not name the new actor. -/
theorem spawn (watched : Watches previous (fresh :: future) world) :
    Watches previous future ((Operation.spawn fresh).apply world) := by
  have past : forall pair, previous pair -> pair.first ∉ future ∧ pair.second ∉ future := by
    intro pair earlier
    have apart := watched.past pair earlier
    simp only [List.mem_cons, not_or] at apart
    exact ⟨apart.1.2, apart.2.2⟩
  rw [Operation.apply]
  split
  · rename_i next spawned
    rcases spawn_eq_ok spawned with ⟨cast, drawn, rfl⟩
    have ids := Cast.ids_spawn drawn
    rcases watched.held with ⟨debounce, debounceIs, once, held⟩
    refine ⟨?_, ⟨debounce, debounceIs, once, ?_⟩, past⟩
    · rw [ids, List.append_assoc]
      exact watched.distinct
    · intro pair
      rw [held, ids]
      simp only [List.mem_append, List.mem_singleton]
      -- the new actor is in no earlier pair, so it holds nothing by coming
      constructor
      · rintro ⟨earlier, first, second⟩
        exact ⟨earlier, Or.inl first, Or.inl second⟩
      · rintro ⟨earlier, first, second⟩
        have apart := watched.past pair earlier
        simp only [List.mem_cons, not_or] at apart
        exact ⟨earlier, first.resolve_right apart.1.1, second.resolve_right apart.2.1⟩
  · refine ⟨?_, watched.held, past⟩
    exact watched.distinct.sublist (List.Sublist.append_left (List.sublist_cons_self _ _) _)

theorem dismiss (watched : Watches previous future world) (actor : ActorId) :
    Watches previous future (world.dismiss actor).world := by
  unfold World.dismiss
  cases taken : world.cast.remove actor with
  | error refusal => exact watched
  | ok pair =>
    have ids := (Cast.remove_eq_ok taken).2.2
    have distinct := (List.nodup_append.1 watched.distinct).1
    rcases watched.held with ⟨debounce, debounceIs, once, held⟩
    refine ⟨?_, ⟨debounce.forget actor, ?_, once.filter _, ?_⟩, watched.past⟩
    · dsimp only
      rw [ids]
      exact watched.distinct.sublist (List.Sublist.append_right (List.erase_sublist) _)
    · dsimp only
      rw [Option.map_map]
      rcases Option.map_eq_some_iff.1 debounceIs with ⟨run, runIs, rfl⟩
      rw [runIs]
      rfl
    · intro other
      dsimp only
      rw [ids, distinct.mem_erase_iff, distinct.mem_erase_iff, Debounce.forget, List.mem_filter,
        held]
      simp only [ActorPair.involves, Bool.not_eq_true', Bool.or_eq_false_iff,
        decide_eq_false_iff_not]
      constructor
      · rintro ⟨⟨earlier, first, second⟩, notFirst, notSecond⟩
        exact ⟨earlier, ⟨notFirst, first⟩, notSecond, second⟩
      · rintro ⟨earlier, ⟨notFirst, first⟩, notSecond, second⟩
        exact ⟨⟨earlier, first, second⟩, notFirst, notSecond⟩

/-- A sweep, after some walks that announce no collisions. -/
theorem sweep (watched : Watches previous future world) {before : World} {said : List Event}
    (silent : collidedPairs said = []) (samePrograms : world.programs = before.programs) :
    let sweep : Sweep := ⟨before, said ++ (world.sweep now).1, (world.sweep now).2⟩
    sweep.Detects previous ∧ Watches sweep.after.Overlapping future sweep.after := by
  intro sweep
  rcases watched.held with ⟨_, debounceIs, heldOnce, held⟩
  rcases Option.map_eq_some_iff.1 debounceIs with ⟨run, active, rfl⟩
  have distinct := (List.nodup_append.1 watched.distinct).1
  have apart := (List.nodup_append.1 watched.distinct).2.2
  rcases sweep_collided active distinct with
    ⟨pairs, debounce, once, begun, keptOnce, kept, collided⟩
  have announced : collidedPairs sweep.events = pairs := by
    rw [collidedPairs_append, silent, collided.announced, List.nil_append]
  have sameCast : sweep.after.cast = world.cast := collided.cast
  have sameOverlaps : sweep.after.Overlapping = world.Overlapping :=
    overlapping_congr sameCast collided.radius
  have debounceAfter : sweep.after.run.map Run.debounce = some debounce := collided.debounce
  refine ⟨⟨?_, ?_, ?_, ?_⟩, ⟨?_, ⟨debounce, debounceAfter, keptOnce heldOnce, ?_⟩, ?_⟩⟩
  · rw [announced]
    exact once
  · intro pair
    rw [announced, sameOverlaps, begun, held]
    -- a pair that overlaps now is there now, so if it overlapped before it was held
    constructor
    · rintro ⟨overlap, notHeld⟩
      exact ⟨overlap, fun earlier => notHeld ⟨earlier, overlap.present⟩⟩
    · rintro ⟨overlap, new⟩
      exact ⟨overlap, fun earlier => new earlier.1⟩
  · rcases Option.map_eq_some_iff.1 debounceAfter with ⟨later, laterActive, laterDebounce⟩
    refine ⟨later, laterActive, ?_, ?_⟩
    · rw [laterDebounce]
      exact keptOnce heldOnce
    · intro pair
      rw [laterDebounce, sameOverlaps, kept]
  · rw [announced, ← samePrograms]
    exact collided.programs
  · rw [sameCast]
    exact watched.distinct
  · intro pair
    rw [sameOverlaps, sameCast, kept]
    constructor
    · exact fun overlap => ⟨overlap, overlap.present⟩
    · exact fun both => both.1
  · intro pair overlap
    rw [sameOverlaps] at overlap
    exact ⟨fun later => apart _ overlap.present.1 _ later rfl,
      fun later => apart _ overlap.present.2 _ later rfl⟩

end Watches

/-! ## Operations that do not sweep -/

theorem Reprogrammed.sameCompany {before after : World} (edit : Reprogrammed before after) :
    SameCompany before after := by
  cases edit with
  | edited programs => exact ⟨rfl, rfl⟩
  | forgotten programs owner node =>
    refine ⟨rfl, ?_⟩
    dsimp only
    rw [Option.map_map]
    rfl

/-! ## Whole runs -/

namespace Watches

/-- What one operation of a run does: if it sweeps, it detects what is new,
and it always leaves a world that goes on watching. -/
theorem apply {operation : Operation} (unended : operation ≠ .finish)
    (watched : Watches previous (operation.fresh?.toList ++ future) world) :
    match operation.sweep? world with
    | none => Watches previous future (operation.apply world)
    | some sweep => sweep.Detects previous ∧
        Watches sweep.after.Overlapping future (operation.apply world) := by
  cases operation with
  | spawn fresh => exact watched.spawn
  | rename actor name =>
    rw [Operation.apply, rename_world]
    exact watched.congr ⟨Cast.ids_modify fun _ => rfl, rfl⟩
  | place actor x y heading =>
    rw [Operation.apply, place_world]
    exact watched.congr ⟨Cast.ids_modify fun _ => rfl, rfl⟩
  | dismiss actor => exact watched.dismiss actor
  | insert node parent actor =>
    exact watched.congr (world.reprogrammed_insert node parent actor).sameCompany
  | remove block => exact watched.congr (world.reprogrammed_remove block).sameCompany
  | move block actor parent =>
    exact watched.congr (world.reprogrammed_move block actor parent).sameCompany
  | adjust block name value =>
    exact watched.congr (world.reprogrammed_adjust block name value).sameCompany
  | start =>
    rcases watched.held with ⟨_, debounceIs, _⟩
    rcases Option.map_eq_some_iff.1 debounceIs with ⟨run, active, _⟩
    apply watched.congr
    rw [Operation.apply, World.start, active]
    exact .refl world
  | finish => exact absurd rfl unended
  | restore => exact watched.congr ⟨Cast.ids_reset world.cast, rfl⟩
  | tick actor generation now =>
    rw [Operation.sweep?, Operation.apply]
    rcases world.tick_cases actor generation now with same | same | ⟨_, same⟩
    · rw [same]
      exact watched
    · rw [same]
      exact watched
    · rw [same]
      exact (watched.congr world.step_sameCompany).sweep world.collidedPairs_step
        world.step_programs
  | tickTogether now =>
    rcases watched.held with ⟨_, debounceIs, _⟩
    rcases Option.map_eq_some_iff.1 debounceIs with ⟨run, active, _⟩
    rw [Operation.sweep?, Operation.apply, World.tickTogether, active]
    exact (watched.congr (world.sameCompany_collect_stepPresent run.driven)).sweep
      (world.collidedPairs_collect_stepPresent run.driven)
      (world.collect_stepPresent_programs run.driven)
  | sweep now =>
    have silent : collidedPairs [] = [] := rfl
    exact watched.sweep silent rfl

end Watches

theorem fresh_of_cons (operation : Operation) (rest : List Operation) :
    (operation :: rest).filterMap Operation.fresh? =
      operation.fresh?.toList ++ rest.filterMap Operation.fresh? := by
  cases operation <;> rfl

theorem detectEdges_sweeps (history : List Operation) :
    forall (world : World) (previous : ActorPair -> Prop), .finish ∉ history ->
      Watches previous (history.filterMap Operation.fresh?) world ->
        DetectEdges previous (world.sweeps history) := by
  induction history with
  | nil => exact fun _ _ _ _ => trivial
  | cons operation rest step =>
    intro world previous unended watched
    rw [List.mem_cons, not_or] at unended
    rw [fresh_of_cons] at watched
    have applied := watched.apply (Ne.symm unended.1)
    rw [sweeps]
    cases swept : operation.sweep? world with
    | none =>
      rw [swept] at applied
      exact step _ _ unended.2 applied
    | some sweep =>
      rw [swept] at applied
      exact ⟨applied.1, step _ _ unended.2 applied.2⟩

/-- In a run of a world of actors with distinct identifiers, whatever is done
during it as long as new actors have new identifiers, the sweeps detect the
beginnings of overlaps.  Before the first of them nothing overlaps.

The sweeps are those of the history, wherever they come from: a tick that is
outdated or whose actor is gone has none.  Programs may be edited and actors may
come and go, but the run must not end in between, since the next one detects
anew what overlaps already. -/
theorem run_detects_edges {world : World} (idle : world.run = none) (history : List Operation)
    (unended : .finish ∉ history)
    (distinct : (world.cast.ids ++ history.filterMap Operation.fresh?).Nodup) :
    DetectEdges (fun _ => False) (world.start.2.sweeps history) :=
  detectEdges_sweeps history world.start.2 _ unended (Watches.start idle distinct)

section Sample

def sampleEncounter : List Operation :=
  [.sweep default, .place ⟨Uuid.ofNat 1⟩ 100.0 0.0 90.0, .tickTogether default,
    .spawn ⟨Uuid.ofNat 3⟩, .tick ⟨Uuid.ofNat 3⟩ 1 default, .dismiss ⟨Uuid.ofNat 3⟩,
    .sweep default, .restore, .tick ⟨Uuid.ofNat 3⟩ 1 default, .tick ⟨Uuid.ofNat 2⟩ 1 default]

theorem run_detects_sampleEncounter :
    let world := standard ⟨Uuid.ofNat 1⟩ ⟨Uuid.ofNat 2⟩ Settings.standard 0
    world.run = none ∧ .finish ∉ sampleEncounter ∧
      (world.cast.ids ++ sampleEncounter.filterMap Operation.fresh?).Nodup ∧
      DetectEdges (fun _ => False) (world.start.2.sweeps sampleEncounter) := by
  intro world
  have idle : world.run = none := rfl
  have unended : .finish ∉ sampleEncounter := by
    simp [sampleEncounter]
  have distinct : (world.cast.ids ++ sampleEncounter.filterMap Operation.fresh?).Nodup := by
    decide
  exact ⟨idle, unended, distinct, run_detects_edges idle sampleEncounter unended distinct⟩

end Sample

end World

end SpriteStage
