import SpriteStage.Proofs.Walk.Congruence
import SpriteStage.Proofs.World.Following

namespace SpriteStage

/-!
# Agreement on one actor

Two worlds agree on an actor when it looks the same in both, has the same
program and has come equally far in it.  How much of an actor is looked at is
a parameter: its pose, or everything but the time at which it spoke.

The worlds may differ in everything else, and still the actor fares the same
in them.  A walk of the actor keeps the agreement and says the same, and a walk
of anyone else does not concern it.  So what the walks of many actors do to
one of them is what its own walks do by themselves.
-/

/-- Whether what is seen of an actor after it acts or is placed depends only on
what was seen of it before. -/
structure Consistent {View : Type} (view : Actor -> View) : Prop where
  act : forall (action : Action) (now later : Instant) (one other : Actor),
    view one = view other -> view (action.effect now one) = view (action.effect later other)
  place : forall (x y heading : Float) (one other : Actor), view one = view other ->
    view (one.placed x y (some heading)) = view (other.placed x y (some heading))

theorem Consistent.acts {View : Type} {view : Actor -> View} (consistent : Consistent view)
    (now later : Instant) (actions : List Action) :
    forall one other : Actor, view one = view other ->
      view (Action.effects now actions one) = view (Action.effects later actions other) := by
  induction actions with
  | nil => exact fun _ _ same => same
  | cons action rest step =>
    intro one other same
    exact step _ _ (consistent.act action now later one other same)

/-- Where an actor goes depends only on where it is. -/
theorem consistent_pose : Consistent Actor.pose where
  act := by
    intro action now later one other same
    exact congrArg action.pose same
  place := fun _ _ _ _ _ _ => rfl

namespace World

/-- The entry that a block of an actor has in the active run. -/
def entryAt? (world : World) (actor : ActorId) (block : BlockId) : Option Entry :=
  world.run.bind fun run => run.progress.get? actor block

variable {View : Type} {view : Actor -> View} {actor walker : ActorId} {now later : Instant}
  {first second third world : World}

/-- Whether an actor looks the same in two worlds, has the same program and has
come equally far. -/
structure AgreeOn (view : Actor -> View) (actor : ActorId) (first second : World) : Prop where
  active : first.run.isSome = second.run.isSome
  seen : (first.cast.get? actor).map view = (second.cast.get? actor).map view
  forest : first.programs.forest actor = second.programs.forest actor
  entries : forall block, first.entryAt? actor block = second.entryAt? actor block

namespace AgreeOn

theorem refl (world : World) : AgreeOn view actor world world :=
  ⟨rfl, rfl, rfl, fun _ => rfl⟩

theorem symm (agree : AgreeOn view actor first second) : AgreeOn view actor second first :=
  ⟨agree.active.symm, agree.seen.symm, agree.forest.symm, fun block => (agree.entries block).symm⟩

theorem trans (one : AgreeOn view actor first second) (next : AgreeOn view actor second third) :
    AgreeOn view actor first third where
  active := one.active.trans next.active
  seen := one.seen.trans next.seen
  forest := one.forest.trans next.forest
  entries := fun block => (one.entries block).trans (next.entries block)

theorem contains (agree : AgreeOn view actor first second) :
    first.cast.contains actor = second.cast.contains actor := by
  have present := congrArg Option.isSome agree.seen
  rwa [Option.isSome_map, Option.isSome_map] at present

/-- Changes that depend only on what is seen of the actor keep it looking the
same. -/
theorem seen_modify (agree : AgreeOn view actor first second) {one other : Actor -> Actor}
    (oneKeeps : forall found, (one found).id = found.id)
    (otherKeeps : forall found, (other found).id = found.id)
    (same : forall left right, view left = view right -> view (one left) = view (other right)) :
    ((first.cast.modify actor one).get? actor).map view =
      ((second.cast.modify actor other).get? actor).map view := by
  rw [Cast.get?_modify oneKeeps, if_pos rfl, Cast.get?_modify otherKeeps, if_pos rfl]
  have seen := agree.seen
  cases foundFirst : first.cast.get? actor with
  | none =>
    rw [foundFirst, Option.map_none, eq_comm, Option.map_eq_none_iff] at seen
    rw [seen]
    rfl
  | some left =>
    rw [foundFirst, Option.map_some, eq_comm, Option.map_eq_some_iff] at seen
    rcases seen with ⟨right, foundSecond, sameView⟩
    rw [foundSecond]
    exact congrArg some (same left right sameView.symm)

/-- Placing the actor keeps the agreement. -/
theorem place (consistent : Consistent view) (agree : AgreeOn view actor first second)
    (x y heading : Float) :
    AgreeOn view actor (first.place actor x y heading).world
      (second.place actor x y heading).world := by
  rw [place_world, place_world]
  refine ⟨agree.active, ?_, agree.forest, agree.entries⟩
  exact agree.seen_modify (fun _ => rfl) (fun _ => rfl) (consistent.place x y heading)

theorem idle (agree : AgreeOn view actor first second) (none : first.run = none) :
    second.run = .none := by
  have isSome := agree.active
  rw [none] at isSome
  exact Option.isNone_iff_eq_none.1 (Option.isSome_eq_false_iff.1 isSome.symm)

/-- The run of an agreeing world, with the same entries of the actor. -/
theorem exists_run (agree : AgreeOn view actor first second) {run : Run}
    (active : first.run = some run) :
    Exists fun other => second.run = some other ∧
      Progress.Alike actor run.progress other.progress := by
  have isSome := agree.active
  rw [active] at isSome
  rcases Option.isSome_iff_exists.1 isSome.symm with ⟨other, otherActive⟩
  refine ⟨other, otherActive, ?_⟩
  intro block
  have same := agree.entries block
  rw [entryAt?, entryAt?, active, otherActive] at same
  exact same

end AgreeOn

/-! ## Walks -/

/-- Where an actor agrees it executes the same commands, at any time. -/
theorem AgreeOn.executes (agree : AgreeOn view actor first second) (now later : Instant) :
    first.executedBy actor now = second.executedBy actor later := by
  rw [executedBy, executedBy]
  cases active : first.run with
  | none =>
    rw [agree.idle active]
  | some run =>
    rcases agree.exists_run active with ⟨other, otherActive, alike⟩
    rw [otherActive, ← agree.forest]
    exact (Walk.settled actor now later (first.programs.forest actor)
      ⟨first.cast, run.progress, []⟩ ⟨second.cast, other.progress, []⟩ alike).1

/-- A walk of the actor keeps the agreement and says the same, at any time. -/
theorem AgreeOn.step (consistent : Consistent view) (agree : AgreeOn view actor first second)
    (now later : Instant) :
    AgreeOn view actor (first.step actor now).2 (second.step actor later).2 ∧
      saidBy actor (first.step actor now).1 = saidBy actor (second.step actor later).1 := by
  have one := first.step_carries actor now
  have two := second.step_carries actor later
  dsimp only at one two
  rw [← agree.executes now later] at two
  refine ⟨⟨?_, ?_, ?_, ?_⟩, ?_⟩
  · rw [first.step_sameCompany.active, second.step_sameCompany.active, agree.active]
  · rw [one.1, two.1]
    exact agree.seen_modify (Action.id_effects now _) (Action.id_effects later _)
      (consistent.acts now later _)
  · rw [first.step_programs, second.step_programs, agree.forest]
  · intro block
    rw [World.step, World.step]
    cases active : first.run with
    | none =>
      rw [agree.idle active]
      exact agree.entries block
    | some run =>
      rcases agree.exists_run active with ⟨other, otherActive, alike⟩
      have settled := Walk.settled actor now later (first.programs.forest actor)
        ⟨first.cast, run.progress, []⟩ ⟨second.cast, other.progress, []⟩ alike
      rw [entryAt?, entryAt?, otherActive, ← agree.forest]
      exact settled.2 block
  · rw [one.2, two.2, agree.contains]

/-- A walk of anyone else does not concern the actor. -/
theorem step_agrees (different : walker ≠ actor) (world : World) (now : Instant) :
    AgreeOn view actor (world.step walker now).2 world ∧
      saidBy actor (world.step walker now).1 = [] := by
  have carried := world.step_carries walker now
  dsimp only at carried
  refine ⟨⟨world.step_sameCompany.active, ?_, ?_, ?_⟩, ?_⟩
  · rw [carried.1, Cast.get?_modify (Action.id_effects now _), if_neg (Ne.symm different)]
  · rw [world.step_programs]
  · intro block
    rw [World.step]
    cases active : world.run with
    | none => rfl
    | some run =>
      rw [entryAt?, entryAt?, active]
      exact Walk.get?_stepForest_of_notMem _ _ (Or.inl (Ne.symm different))
  · rw [carried.2]
    split
    · exact saidBy_event?_of_ne different _
    · rfl

/-- What is done to one actor: it walks its program, or it is placed. -/
inductive Cue where
  | walk
  | place (x y heading : Float)
  deriving DecidableEq

def follow (actor : ActorId) (now : Instant) (cue : Cue) (world : World) : List Event × World :=
  match cue with
  | .walk => world.step actor now
  | .place x y heading => ([], (world.place actor x y heading).world)

/-- Do to an actor one thing after the other, and nothing else. -/
def perform (actor : ActorId) (now : Instant) (cues : List Cue) (world : World) :
    List Event × World :=
  collect (follow actor now) cues world

/-- The walks of many actors are to one of them as its own walks alone. -/
theorem AgreeOn.walks (consistent : Consistent view) (now later : Instant)
    (walkers : List ActorId) :
    forall {first second : World}, AgreeOn view actor first second ->
      let together := collect (fun walker => World.step walker now) walkers first
      let alone := perform actor later (List.replicate (walkers.count actor) .walk) second
      AgreeOn view actor together.2 alone.2 ∧ saidBy actor together.1 = saidBy actor alone.1 := by
  induction walkers with
  | nil => exact fun agree => ⟨agree, rfl⟩
  | cons walker rest further =>
    intro first second agree
    rw [collect_cons]
    by_cases own : walker = actor
    · subst own
      have one := agree.step consistent now later
      have next := further one.1
      rw [List.count_cons_self, List.replicate_succ]
      refine ⟨next.1, ?_⟩
      rw [perform, collect_cons, saidBy_append, saidBy_append, one.2]
      exact congrArg _ next.2
    · have passed : AgreeOn view actor (first.step walker now).2 first ∧ _ :=
        step_agrees own first now
      have next := further (passed.1.trans agree)
      rw [List.count_cons_of_ne own]
      refine ⟨next.1, ?_⟩
      rw [saidBy_append, passed.2]
      exact next.2

end World

end SpriteStage
