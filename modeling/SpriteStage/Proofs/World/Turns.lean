import SpriteStage.Proofs.World.Order

namespace SpriteStage

/-!
# Turns instead of a common tick

The driven actors can be ticked together, or each in its turn.  In a common
tick there is one sweep, after all the walks; otherwise there is one after
each walk.  The two come to the same when the sweeps in between have nothing
to do: a sweep that finds just the pairs that the debounce set holds lets no
pair collide and leaves the world as it is, so the walks follow one another as
in a common tick, and only the last sweep counts.

The times of the turns and of the common tick are arbitrary.  They show in
bubbles and in collisions, and are left out of the comparison there.
-/

/-- The event without the time at which a collision was noticed. -/
def Event.undated : Event -> Event
  | .collision event => .collision { event with noticedAt := .epoch }
  | event => event

/-- The collision of a meeting, without its time. -/
def Event.ofMeeting (meeting : ActorPair × (Float × Float)) : Event :=
  .collision ⟨meeting.1.first, meeting.1.second, meeting.2, .epoch⟩

/-- Ticks of one actor after the other in one run, each at its own time. -/
def ticksInTurn (generation : Nat) (turns : List (ActorId × Instant)) : List Operation :=
  turns.map fun turn => .tick turn.1 generation turn.2

namespace World

variable {world first second : World} {run : Run} {now later : Instant}

/-- Walks of one actor after the other, each at its own time and without sweeps. -/
def walkInTurn (turns : List (ActorId × Instant)) (world : World) : List Event × World :=
  collect (fun turn => step turn.1 turn.2) turns world

/-- Whether every sweep in a sequence of ticks but the last finds just the
pairs of a list. -/
def SweepsFind (pairs : List ActorPair) (world : World) (generation : Nat)
    (turns : List (ActorId × Instant)) : Prop :=
  forall earlier turn next rest, turns = earlier ++ turn :: next :: rest ->
    let reached := world.after (ticksInTurn generation earlier)
    forall pair, (reached.step turn.1 turn.2).2.Overlapping pair <-> pair ∈ pairs

/-! ## Sweeps with nothing to do -/

/-- A sweep that finds just the pairs that are held does nothing. -/
theorem sweep_of_held (active : world.run = some run) (distinct : world.cast.ids.Nodup)
    (held : forall pair, world.Overlapping pair <-> pair ∈ run.debounce.held) :
    world.sweep now = ([], world) := by
  have found : forall pair, pair ∈ pairsAmong world.radius world.cast.actors <->
      pair ∈ run.debounce.held := fun pair => (mem_pairsAmong_iff distinct).trans (held pair)
  rw [sweep, active]
  dsimp only
  rw [Debounce.refresh_of_held (nodup_pairsAmong world.radius distinct) found]
  dsimp only
  rw [collect, ← active]

/-- A walk changes nothing of a run but its progress. -/
theorem step_run (active : world.run = some run) (actor : ActorId) (now : Instant) :
    Exists fun progress =>
      (world.step actor now).2.run = some { run with progress := progress } := by
  rw [step, active]
  exact ⟨_, rfl⟩

/-- The turn of an actor is a walk and a sweep. -/
theorem tick_of_present {actor : ActorId} (active : world.run = some run)
    (present : world.cast.contains actor = true) (now : Instant) :
    let stepped := world.step actor now
    (world.tick actor run.generation now).1.events = stepped.1 ++ (stepped.2.sweep now).1 ∧
      (world.tick actor run.generation now).2 = (stepped.2.sweep now).2 := by
  intro stepped
  rw [tick, active]
  dsimp only
  rw [if_pos rfl, if_pos present]
  exact ⟨rfl, rfl⟩

/-- Turns whose sweeps find just the pairs that are held, all but that of the
last, are walks and one sweep. -/
theorem turns_of_held (turns : List (ActorId × Instant)) :
    forall {world : World} {run : Run}, world.run = some run -> world.cast.ids.Nodup ->
      (forall turn, turn ∈ turns -> world.cast.contains turn.1 = true) ->
      SweepsFind run.debounce.held world run.generation turns -> turns ≠ [] ->
      let ticks := ticksInTurn run.generation turns
      let walked := world.walkInTurn turns
      Exists fun last => world.events ticks = walked.1 ++ (walked.2.sweep last).1 ∧
        world.after ticks = (walked.2.sweep last).2 := by
  induction turns with
  | nil => exact fun _ _ _ _ busy => absurd rfl busy
  | cons turn rest further =>
    intro world run active distinct present finds _ ticks walked
    have own := tick_of_present active (present turn List.mem_cons_self) turn.2
    cases rest with
    | nil =>
      refine ⟨turn.2, ?_⟩
      have walk : walked = world.step turn.1 turn.2 := collect_singleton _ turn world
      rw [walk]
      exact ⟨(List.append_nil _).trans own.1, own.2⟩
    | cons next rest =>
      -- The first sweep does nothing, so the others go on from the first walk.
      have company : SameCompany world (world.step turn.1 turn.2).2 := world.step_sameCompany
      have distinctAfter := company.ids.symm ▸ distinct
      rcases step_run active turn.1 turn.2 with ⟨progress, activeAfter⟩
      have quiet : (world.step turn.1 turn.2).2.sweep turn.2 = ([], (world.step turn.1 turn.2).2) :=
        sweep_of_held activeAfter distinctAfter (finds [] turn next rest rfl)
      dsimp only at own
      rw [quiet, List.append_nil] at own
      have after : forall later : List (ActorId × Instant),
          world.after (ticksInTurn run.generation (turn :: later)) =
            (world.step turn.1 turn.2).2.after (ticksInTurn run.generation later) := by
        intro later
        exact congrArg (fun reached => World.after reached _) own.2
      have findsAfter : SweepsFind run.debounce.held (world.step turn.1 turn.2).2 run.generation
          (next :: rest) := by
        intro earlier middle following remaining split
        have found := finds (turn :: earlier) middle following remaining
          (congrArg (List.cons turn) split)
        rwa [after] at found
      have presentAfter : forall other, other ∈ next :: rest ->
          (world.step turn.1 turn.2).2.cast.contains other.1 = true := by
        intro other member
        rw [company.contains]
        exact present other (List.mem_cons_of_mem turn member)
      rcases further activeAfter distinctAfter presentAfter findsAfter (List.cons_ne_nil _ _) with
        ⟨last, events, reached⟩
      refine ⟨last, ?_, (after _).trans reached⟩
      have announced : world.events ticks = (world.step turn.1 turn.2).1 ++
          (world.step turn.1 turn.2).2.events (ticksInTurn run.generation (next :: rest)) := by
        rw [← own.1]
        exact congrArg (fun reached => _ ++ World.events reached _) own.2
      rw [announced, events, ← List.append_assoc]
      rfl

/-! ## Walks at other times -/

namespace LookAlike

theorem refl (world : World) : LookAlike world world := ⟨rfl, rfl, rfl, rfl, fun _ _ => rfl⟩

/-- Worlds that look alike agree on every actor. -/
theorem agrees (alike : LookAlike first second) (actor : ActorId) :
    AgreeOn Actor.undated actor first second where
  active := by
    have isSome := congrArg Option.isSome alike.debounce
    rwa [Option.isSome_map, Option.isSome_map] at isSome
  seen := alike.get?_undated actor
  forest := by
    rw [alike.programs]
  entries := alike.entries actor

/-- A walk does and says the same in worlds that look alike, at any time. -/
theorem step (alike : LookAlike first second) (actor : ActorId) (now later : Instant) :
    LookAlike (first.step actor now).2 (second.step actor later).2 ∧
      (first.step actor now).1 = (second.step actor later).1 := by
  have one := first.step_carries actor now
  have two := second.step_carries actor later
  dsimp only at one two
  rw [← (alike.agrees actor).executes now later] at two
  refine ⟨⟨?_, ?_, ?_, ?_, ?_⟩, ?_⟩
  · rw [one.1, two.1]
    exact Cast.undated_modify alike.cast actor now later _
  · rw [step_programs, step_programs, alike.programs]
  · rw [step_radius, step_radius, alike.radius]
  · rw [first.step_sameCompany.debounce, second.step_sameCompany.debounce, alike.debounce]
  · intro other
    by_cases own : other = actor
    · rw [own]
      exact ((alike.agrees actor).step consistent_undated now later).1.entries
    · have left : AgreeOn Actor.undated other (first.step actor now).2 first :=
        (step_agrees (Ne.symm own) first now).1
      have right : AgreeOn Actor.undated other (second.step actor later).2 second :=
        (step_agrees (Ne.symm own) second later).1
      exact ((left.trans (alike.agrees other)).trans right.symm).entries
  · rw [one.2, two.2, alike.contains]

/-- Walks in turn do and say the same as those of a common tick. -/
theorem walks (now : Instant) (turns : List (ActorId × Instant)) :
    forall {first second : World}, LookAlike first second ->
      let together := collect (fun walker => World.step walker now) (turns.map Prod.fst) first
      LookAlike together.2 (second.walkInTurn turns).2 ∧
        together.1 = (second.walkInTurn turns).1 := by
  induction turns with
  | nil => exact fun alike => ⟨alike, rfl⟩
  | cons turn rest further =>
    intro first second alike
    have own := alike.step turn.1 now turn.2
    have next := further own.1
    rw [List.map_cons, walkInTurn, collect_cons, collect_cons]
    exact ⟨next.1, congrArg₂ (· ++ ·) own.2 next.2⟩

end LookAlike

/-! ## What is announced -/

/-- A sweep announces meetings and nothing else. -/
theorem undated_sweep (world : World) (now : Instant) :
    (world.sweep now).1.map Event.undated =
      (meetings (world.sweep now).1).map Event.ofMeeting := by
  have collisions : forall (pairs : List ActorPair) (world : World),
      (collect (collide now) pairs world).1.map Event.undated =
        (meetings (collect (collide now) pairs world).1).map Event.ofMeeting := by
    intro pairs
    induction pairs with
    | nil => exact fun _ => rfl
    | cons pair rest further =>
      intro world
      have own : (world.collide now pair).1.map Event.undated =
          (meetings (world.collide now pair).1).map Event.ofMeeting := by
        unfold collide
        split <;> rfl
      rw [collect_cons, List.map_append, meetings_append, List.map_append, own, further]
  unfold sweep
  split
  · rfl
  · exact collisions _ _

/-- The driven actors can be ticked together or each in its turn, if the
sweeps in between find just the pairs that are held already.

What the last sweep finds is left open, as both ways have it in common.  Times
are not compared, because each turn has its own.  Actors that are driven but
gone have no turn. -/
theorem turns_agree_with_common_tick {world : World} (sound : world.Sound) {run : Run}
    (active : world.run = some run) (turns : List (ActorId × Instant)) (busy : turns ≠ [])
    (inOrder : turns.map Prod.fst = run.driven.filter world.cast.contains)
    (finds : SweepsFind run.debounce.held world run.generation turns) (now : Instant) :
    let ticks := ticksInTurn run.generation turns
    LookAlike (world.tickTogether now).2 (world.after ticks) ∧
      (world.tickTogether now).1.map Event.undated = (world.events ticks).map Event.undated := by
  intro ticks
  have present : forall turn, turn ∈ turns -> world.cast.contains turn.1 = true := by
    intro turn member
    have walker := List.mem_map_of_mem (f := Prod.fst) member
    rw [inOrder] at walker
    exact (List.mem_filter.1 walker).2
  rcases turns_of_held turns active sound.distinct present finds busy with ⟨last, events, reached⟩
  have walked := (LookAlike.refl world).walks now turns
  have swept := walked.1.sweep now last
  have common := tickTogether_eq_round active now
  rw [← inOrder, round] at common
  rw [reached, events, common]
  refine ⟨swept.1, ?_⟩
  rw [List.map_append, List.map_append, undated_sweep, undated_sweep, walked.2, swept.2]

section Sample

/-- Two actors have a word each, and in a run one is brought to the other.  They
collide, and from then on they stay together. -/
def sampleMeeting : List Operation :=
  sampleWordEach ++ [.place ⟨Uuid.ofNat 2⟩ 5.0 0.0 90.0, .sweep default]

def sampleTurns : List (ActorId × Instant) :=
  [(⟨Uuid.ofNat 1⟩, .epoch), (⟨Uuid.ofNat 2⟩, ⟨"2024-02-29T12:00:00Z", by decide⟩)]

/-- The sweep between the two turns finds the pair that is held, and neither it
nor the last one lets the two collide again. -/
theorem sampleTurns_agree :
    let reached := sampleApart.after sampleMeeting
    reached.Sound ∧ Exists fun run => reached.run = some run ∧
      run.debounce.held = [⟨⟨Uuid.ofNat 1⟩, ⟨Uuid.ofNat 2⟩⟩] ∧
      sampleTurns.map Prod.fst = run.driven.filter reached.cast.contains ∧
      SweepsFind run.debounce.held reached run.generation sampleTurns ∧
      let ticks := ticksInTurn run.generation sampleTurns
      LookAlike (reached.tickTogether .epoch).2 (reached.after ticks) ∧
        (reached.tickTogether .epoch).1.map Event.undated =
          (reached.events ticks).map Event.undated ∧
        reached.events ticks =
          [.said ⟨Uuid.ofNat 1⟩ "far" none, .said ⟨Uuid.ofNat 2⟩ "near" none] := by
  intro reached
  have sound : reached.Sound :=
    sampleApart_created.sound.after_history sampleMeeting
      ⟨sampleWord_allowed 10 "near", sampleWord_allowed 20 "far", trivial, trivial, trivial,
        trivial⟩
  let run := reached.run.get (by decide +kernel)
  have active : reached.run = some run := (Option.some_get _).symm
  have held : run.debounce.held = [⟨⟨Uuid.ofNat 1⟩, ⟨Uuid.ofNat 2⟩⟩] := by decide +kernel
  have inOrder : sampleTurns.map Prod.fst = run.driven.filter reached.cast.contains := by
    decide +kernel
  have together : SweepsFind run.debounce.held reached run.generation sampleTurns := by
    intro earlier turn next rest split
    have first : earlier = [] := by
      have length := congrArg List.length split
      rw [List.length_append, List.length_cons, List.length_cons] at length
      change 2 = _ at length
      exact List.length_eq_zero_iff.1 (by omega)
    have walker : turn = (⟨Uuid.ofNat 1⟩, .epoch) := by
      rw [first] at split
      exact (List.cons.inj split).1.symm
    rw [first, walker]
    intro _ pair
    let walked := (reached.step ⟨Uuid.ofNat 1⟩ .epoch).2
    have distinct : walked.cast.ids.Nodup := sound.step.distinct
    have found : pairsAmong walked.radius walked.cast.actors =
        [⟨⟨Uuid.ofNat 1⟩, ⟨Uuid.ofNat 2⟩⟩] := by
      decide +kernel
    change walked.Overlapping pair <-> _
    rw [Overlapping, ← mem_pairsAmong_iff distinct, found, held]
  have agree := turns_agree_with_common_tick sound active sampleTurns (List.cons_ne_nil _ _) inOrder
    together .epoch
  exact ⟨sound, _, active, held, inOrder, together, agree.1, agree.2, by decide +kernel⟩

end Sample

end World

end SpriteStage
