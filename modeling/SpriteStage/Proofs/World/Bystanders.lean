import SpriteStage.Proofs.Programs.Seclusion
import SpriteStage.Proofs.World.Agreement
import SpriteStage.Proofs.World.Refusal

namespace SpriteStage

/-!
# Bystanders

What becomes of an actor during a run is settled by its own walks and by where
it is placed.  Everything else may be done in between, and in any order: other
actors walk, are placed, come and go, and their programs are edited and
exchanged.  As long as no edit concerns the actor or its blocks and it is in no
collision, it makes no difference to its pose, its program, its progress and
what it says.

The argument follows the actor through a history in two worlds at once.  In
one of them everything happens, in the other only what concerns the actor.
-/

namespace Operation

/-- Whether an edit concerns an actor: it is about the actor itself, about a
block of it, or about a place in its program. -/
def concerns (actor : ActorId) (world : World) : Operation -> Bool
  | .dismiss other => other = actor
  | .insert _ _ other => other = actor
  | .remove block => block ∈ Forest.ids (world.programs.forest actor)
  | .move block other _ => block ∈ Forest.ids (world.programs.forest actor) || other = actor
  | .adjust block _ _ => block ∈ Forest.ids (world.programs.forest actor)
  | _ => false

def closes : Operation -> Bool
  | .finish => true
  | .restore => true
  | _ => false

/-- What an operation does to an actor in the way of walks and places. -/
def cues (actor : ActorId) (world : World) : Operation -> List World.Cue
  | .place other x y heading => if other = actor then [.place x y heading] else []
  | operation => List.replicate ((operation.walkers world).count actor) .walk

end Operation

namespace World

/-- What the operations of a history do to an actor in the way of walks and
places, in order. -/
def cues (actor : ActorId) (world : World) : List Operation -> List Cue
  | [] => []
  | operation :: rest => operation.cues actor world ++ (operation.apply world).cues actor rest

/-- Whether throughout a history the run goes on, every edit that concerns an
actor is refused, and no collision involves the actor. -/
def Undisturbed (actor : ActorId) (world : World) : List Operation -> Prop
  | [] => True
  | operation :: rest =>
    operation.closes = false ∧
      (operation.concerns actor world = true -> (operation.refusal? world).isSome = true) ∧
      (forall pair, pair ∈ collidedPairs (operation.events world) ->
        pair.involves actor = false) ∧
      (operation.apply world).Undisturbed actor rest

instance decidableUndisturbed (actor : ActorId) :
    forall (history : List Operation) (world : World),
      Decidable (world.Undisturbed actor history)
  | [], _ => inferInstanceAs (Decidable True)
  | operation :: rest, world =>
    have := decidableUndisturbed actor rest (operation.apply world)
    inferInstanceAs (Decidable (_ ∧ _ ∧ _ ∧ _))

variable {world before middle after first second : World} {actor other : ActorId}
  {now later : Instant} {operation : Operation} {events early late : List Event} {id : BlockId}

/-- Whether a run is active, an actor is there, and its program is secluded. -/
structure Hosts (actor : ActorId) (world : World) : Prop where
  active : world.run.isSome = true
  present : world.cast.contains actor = true
  secluded : world.programs.Secludes actor

/-- What happened between two worlds did not concern an actor. -/
structure Spares (actor : ActorId) (before : World) (events : List Event) (after : World) :
    Prop where
  agree : AgreeOn Actor.pose actor after before
  secluded : after.programs.Secludes actor
  silent : saidBy actor events = []

namespace Spares

theorem hosts (spares : Spares actor before events after) (hosts : before.Hosts actor) :
    after.Hosts actor where
  active := spares.agree.active.trans hosts.active
  present := spares.agree.contains.trans hosts.present
  secluded := spares.secluded

theorem refl (secluded : world.programs.Secludes actor) : Spares actor world [] world :=
  ⟨.refl world, secluded, rfl⟩

theorem append (one : Spares actor before early middle) (next : Spares actor middle late after) :
    Spares actor before (early ++ late) after where
  agree := next.agree.trans one.agree
  secluded := next.secluded
  silent := by
    rw [saidBy_append, one.silent, next.silent]
    rfl

/-- An edit spares an actor that stays where it is if it passes the program of
the actor by and keeps its entries. -/
theorem of_edit {change : Run -> Run}
    (passed : Programs.PassesBy actor world.programs after.programs)
    (seen : (after.cast.get? actor).map Actor.pose = (world.cast.get? actor).map Actor.pose)
    (changed : after.run = world.run.map change)
    (kept : forall run block,
      (change run).progress.get? actor block = run.progress.get? actor block) :
    Spares actor world [] after where
  agree := by
    refine ⟨?_, seen, passed.forest, ?_⟩
    · rw [changed, Option.isSome_map]
    · intro block
      rw [entryAt?, entryAt?, changed]
      cases world.run with
      | none => rfl
      | some run => exact kept run block
  secluded := passed.secluded
  silent := rfl

theorem of_cast (secluded : world.programs.Secludes actor) {cast : Cast}
    (seen : (cast.get? actor).map Actor.pose = (world.cast.get? actor).map Actor.pose) :
    Spares actor world [] { world with cast := cast } :=
  of_edit secluded.passed seen Option.map_id'.symm fun _ _ => rfl

theorem of_programs {programs : Programs}
    (passed : Programs.PassesBy actor world.programs programs) :
    Spares actor world [] { world with programs := programs } :=
  of_edit passed rfl Option.map_id'.symm fun _ _ => rfl

end Spares

/-! ## Edits of others -/

theorem spawn_spares (hosts : world.Hosts actor) (fresh : ActorId) :
    Spares actor world [] ((Operation.spawn fresh).apply world) := by
  rw [Operation.apply]
  split
  · rename_i next spawned
    rcases spawn_eq_ok spawned with ⟨cast, drawn, rfl⟩
    apply Spares.of_cast hosts.secluded
    rw [Cast.get?_spawn_of_contains drawn hosts.present]
  · exact .refl hosts.secluded

theorem rename_spares (hosts : world.Hosts actor) (other : ActorId) (name : String) :
    Spares actor world [] (world.rename other name).world := by
  have found : (world.cast.modify other fun actor => actor.renamed name).get? actor = _ :=
    Cast.get?_modify fun _ => rfl
  rw [rename_world]
  apply Spares.of_cast hosts.secluded
  rw [found]
  split
  · rename_i own
    rw [Option.map_map, own]
    rfl
  · rfl

theorem place_spares (hosts : world.Hosts actor) (different : other ≠ actor)
    (x y heading : Float) : Spares actor world [] (world.place other x y heading).world := by
  have found : (world.cast.modify other fun actor =>
      actor.placed x y (some heading)).get? actor = _ := Cast.get?_modify fun _ => rfl
  rw [place_world]
  apply Spares.of_cast hosts.secluded
  rw [found, if_neg (Ne.symm different)]

theorem dismiss_spares (hosts : world.Hosts actor) (different : other ≠ actor) :
    Spares actor world [] (world.dismiss other).world := by
  rcases world.dismiss_cases other with same | ⟨removed, cast, taken, same⟩
  · rw [same]
    exact .refl hosts.secluded
  · rw [same]
    refine Spares.of_edit (hosts.secluded.erase different) ?_ rfl ?_
    · rw [Cast.get?_remove_of_ne taken (Ne.symm different)]
    · intro run block
      rw [Run.forget, Progress.get?_forget, if_neg (Ne.symm different)]

theorem insert_spares (hosts : world.Hosts actor) (different : other ≠ actor) (node : Block)
    (parent : Option BlockId) : Spares actor world [] (world.insert node parent other).world := by
  rcases world.insert_cases node parent other with same | ⟨programs, _, inserted, same⟩
  · rw [same]
    exact .refl hosts.secluded
  · rw [same]
    exact .of_programs (hosts.secluded.insert different inserted)

theorem adjust_spares (hosts : world.Hosts actor)
    (foreign : id ∉ Forest.ids (world.programs.forest actor)) (name : String)
    (value : Parameter) : Spares actor world [] (world.adjust id name value).world := by
  rcases world.adjust_cases id name value with same | ⟨programs, adjusted, same⟩
  · rw [same]
    exact .refl hosts.secluded
  · rw [same]
    exact .of_programs (hosts.secluded.adjust foreign adjusted)

/-- A tree that leaves the program of another actor takes no entry of this one
with it. -/
theorem forgetTree_spares (passed : Programs.PassesBy actor world.programs after.programs)
    (sameCast : after.cast = world.cast) {owner : ActorId} (different : owner ≠ actor)
    {node : Block} (changed : after.run = world.run.map fun run => run.forgetTree owner node) :
    Spares actor world [] after := by
  refine Spares.of_edit passed (by rw [sameCast]) changed ?_
  intro run block
  rw [Run.forgetTree, Progress.get?_forgetBlocks, if_neg]
  exact fun own => different own.1.symm

theorem owner_ne_of_foreign {owner : ActorId} (owned : world.programs.owner? id = some owner)
    (foreign : id ∉ Forest.ids (world.programs.forest actor)) : owner ≠ actor := by
  rintro rfl
  rcases Option.map_eq_some_iff.1 owned with ⟨⟨owner, node⟩, located, rfl⟩
  exact foreign (Forest.mem_ids_of_find? (Programs.find?_of_locate located))

theorem remove_spares (hosts : world.Hosts actor)
    (foreign : id ∉ Forest.ids (world.programs.forest actor)) :
    Spares actor world [] (world.remove id).world := by
  rcases world.remove_edits id with same | ⟨owner, node, programs, owned, removed, same⟩
  · rw [same]
    exact .refl hosts.secluded
  · rw [same]
    exact forgetTree_spares (hosts.secluded.remove foreign removed) rfl
      (owner_ne_of_foreign owned foreign) rfl

theorem move_spares (hosts : world.Hosts actor)
    (foreign : id ∉ Forest.ids (world.programs.forest actor)) (different : other ≠ actor)
    (parent : Option BlockId) : Spares actor world [] (world.move id other parent).world := by
  rcases world.move_edits id other parent with same | ⟨_, owner, owned, moved⟩
  · rw [same]
    exact .refl hosts.secluded
  · have passed : Programs.PassesBy actor world.programs
        (world.programs.move id other parent).1 := hosts.secluded.move foreign different
    rcases moved with same | ⟨node, same⟩
    · rw [same]
      exact .of_programs passed
    · rw [same]
      exact forgetTree_spares passed rfl (owner_ne_of_foreign owned foreign) rfl

/-- A refused move that lost a tree lost one of another actor. -/
theorem refused_spares (hosts : world.Hosts actor) {refusal : Refusal}
    (refused : operation.refusal? world = some refusal) :
    Spares actor world [] (operation.apply world) := by
  rcases refused_cases refused with same | loses
  · rw [same]
    exact .refl hosts.secluded
  · cases loses with
    | move removed inside outside lost =>
      rw [Operation.apply, lost]
      rcases hosts.secluded.removed_cases removed with passed | own
      · exact .of_programs passed
      · rw [own.2 _ inside] at outside
        cases outside

/-! ## Sweeps -/

theorem collide_spares {pair : ActorPair} (secluded : world.programs.Secludes actor)
    (apart : forall other, other ∈ collidedPairs (world.collide now pair).1 ->
      other.involves actor = false) :
    Spares actor world (world.collide now pair).1 (world.collide now pair).2 := by
  revert apart
  unfold collide
  split
  · rename_i run first second active _ _
    intro apart
    have notIn := apart pair List.mem_cons_self
    rw [ActorPair.involves, Bool.or_eq_false_iff, decide_eq_false_iff_not,
      decide_eq_false_iff_not] at notIn
    have notFirst : actor ≠ pair.first := Ne.symm notIn.1
    have notSecond : actor ≠ pair.second := Ne.symm notIn.2
    let programs := world.programs.exchange pair.first pair.second
    let change (run : Run) : Run :=
      { run with progress := restart programs pair.second (restart programs pair.first
          ((run.progress.forget pair.first).forget pair.second)) }
    have kept : forall run block,
        (change run).progress.get? actor block = run.progress.get? actor block := by
      intro run block
      dsimp only [change]
      rw [restart, Progress.get?_seed_of_notMem _ _ (Or.inl notSecond), restart,
        Progress.get?_seed_of_notMem _ _ (Or.inl notFirst), Progress.get?_forget,
        if_neg notSecond, Progress.get?_forget, if_neg notFirst]
    have changed : some (change run) = world.run.map change := by
      rw [active]
      rfl
    have edit : Spares actor world []
        { world with programs := programs, run := some (change run) } :=
      .of_edit (secluded.exchange notIn.1 notIn.2) rfl changed kept
    exact ⟨edit.agree, edit.secluded, rfl⟩
  · exact fun _ => .refl secluded

theorem collect_collide_spares (pairs : List ActorPair) :
    forall world : World, world.programs.Secludes actor ->
      (forall pair, pair ∈ collidedPairs (collect (collide now) pairs world).1 ->
        pair.involves actor = false) ->
      Spares actor world (collect (collide now) pairs world).1
        (collect (collide now) pairs world).2 := by
  induction pairs with
  | nil => exact fun _ secluded _ => .refl secluded
  | cons pair rest step =>
    intro world secluded apart
    rw [collect_cons, collidedPairs_append] at apart
    have first : Spares actor world (world.collide now pair).1 (world.collide now pair).2 :=
      collide_spares secluded fun other member => apart other (List.mem_append_left _ member)
    exact first.append (step _ first.secluded fun other member =>
      apart other (List.mem_append_right _ member))

/-- A sweep spares an actor that is in none of its collisions. -/
theorem sweep_spares (secluded : world.programs.Secludes actor)
    (apart : forall pair, pair ∈ collidedPairs (world.sweep now).1 ->
      pair.involves actor = false) :
    Spares actor world (world.sweep now).1 (world.sweep now).2 := by
  revert apart
  unfold sweep
  split
  · exact fun _ => .refl secluded
  · rename_i run active
    intro apart
    let refreshed := run.debounce.refresh (pairsAmong world.radius world.cast.actors)
    let change (run : Run) : Run := { run with debounce := refreshed.2 }
    have changed : some (change run) = world.run.map change := by
      rw [active]
      rfl
    have held : Spares actor world [] { world with run := some (change run) } :=
      .of_edit secluded.passed rfl changed fun _ _ => rfl
    exact held.append (collect_collide_spares _ _ secluded apart)

/-! ## What a history amounts to -/

/-- What happened between two worlds amounts, for an actor, to some cues: it
fares as if only these were done to it, in any world that agrees on it. -/
structure AmountsTo (actor : ActorId) (cues : List Cue) (before : World) (events : List Event)
    (after : World) : Prop where
  hosts : after.Hosts actor
  alone : forall (second : World) (later : Instant), AgreeOn Actor.pose actor before second ->
    AgreeOn Actor.pose actor after (perform actor later cues second).2 ∧
      saidBy actor events = saidBy actor (perform actor later cues second).1

theorem collect_append {Item : Type} (action : Item -> World -> List Event × World)
    (first second : List Item) :
    forall world : World, collect action (first ++ second) world =
      ((collect action first world).1 ++ (collect action second (collect action first world).2).1,
        (collect action second (collect action first world).2).2) := by
  induction first with
  | nil => exact fun _ => rfl
  | cons item rest step =>
    intro world
    rw [List.cons_append, collect_cons, collect_cons, step, List.append_assoc]

theorem Spares.amounts (spares : Spares actor before events after)
    (hosts : before.Hosts actor) : AmountsTo actor [] before events after where
  hosts := spares.hosts hosts
  alone := fun _ _ agree => ⟨spares.agree.trans agree, spares.silent⟩

namespace AmountsTo

theorem append {some more : List Cue} (one : AmountsTo actor some before early middle)
    (next : AmountsTo actor more middle late after) :
    AmountsTo actor (some ++ more) before (early ++ late) after where
  hosts := next.hosts
  alone := by
    intro second later agree
    have first := one.alone second later agree
    have further := next.alone _ later first.1
    rw [perform, collect_append]
    refine ⟨further.1, ?_⟩
    rw [saidBy_append, saidBy_append, first.2, further.2]
    rfl

theorem walks (hosts : world.Hosts actor) (walkers : List ActorId) (now : Instant) :
    let walked := collect (fun walker => step walker now) walkers world
    AmountsTo actor (List.replicate (walkers.count actor) .walk) world walked.1 walked.2 where
  hosts := by
    have company : SameCompany world
        (collect (fun walker => step walker now) walkers world).2 :=
      sameCompany_walks world walkers
    refine ⟨company.active.trans hosts.active, ?_, ?_⟩
    · rw [company.contains]
      exact hosts.present
    · rw [walks_programs]
      exact hosts.secluded
  alone := fun _ later agree => agree.walks consistent_pose now later walkers

theorem round (hosts : world.Hosts actor) (walkers : List ActorId)
    (apart : forall pair, pair ∈ collidedPairs (world.round walkers now).1 ->
      pair.involves actor = false) :
    AmountsTo actor (List.replicate (walkers.count actor) .walk) world
      (world.round walkers now).1 (world.round walkers now).2 := by
  have walked := walks hosts walkers now
  let middle := (collect (fun walker => step walker now) walkers world).2
  have swept : Spares actor middle (middle.sweep now).1 (middle.sweep now).2 := by
    apply sweep_spares walked.hosts.secluded
    intro pair member
    apply apart
    rw [World.round, collidedPairs_append]
    exact List.mem_append_right _ member
  have both := walked.append (swept.amounts walked.hosts)
  rwa [List.append_nil] at both

theorem place (hosts : world.Hosts actor) (x y heading : Float) :
    AmountsTo actor [.place x y heading] world [] (world.place actor x y heading).world where
  hosts := by
    have there : (world.cast.modify actor fun actor =>
        actor.placed x y (some heading)).contains actor = _ := Cast.contains_modify fun _ => rfl
    rw [place_world]
    exact ⟨hosts.active, there.trans hosts.present, hosts.secluded⟩
  alone := fun _ _ agree => ⟨agree.place consistent_pose x y heading, rfl⟩

/-- A timed operation amounts to the walks of the actor in it. -/
theorem timed (hosts : world.Hosts actor) (isTimed : operation.isTimed = true)
    (apart : forall pair, pair ∈ collidedPairs (operation.events world) ->
      pair.involves actor = false) :
    AmountsTo actor (List.replicate ((operation.walkers world).count actor) .walk) world
      (operation.events world) (operation.apply world) := by
  rcases Operation.timed_cases isTimed with
    ⟨none, same, silent⟩ | ⟨walkers, now, chosen, applied, announced⟩
  · rw [Operation.walkers, none, same, silent]
    exact (Spares.refl hosts.secluded).amounts hosts
  · rw [announced] at apart
    rw [Operation.walkers, chosen, applied, announced]
    exact round hosts walkers apart

/-- Every operation amounts to its cues, unless it ends the run, edits what is
the actor's, or has it collide. -/
theorem apply (hosts : world.Hosts actor) (goesOn : operation.closes = false)
    (refusedOr : operation.concerns actor world = true ->
      (operation.refusal? world).isSome = true)
    (apart : forall pair, pair ∈ collidedPairs (operation.events world) ->
      pair.involves actor = false) :
    AmountsTo actor (operation.cues actor world) world (operation.events world)
      (operation.apply world) := by
  have refused : operation.concerns actor world = true ->
      Spares actor world [] (operation.apply world) := by
    intro concerned
    rcases Option.isSome_iff_exists.1 (refusedOr concerned) with ⟨refusal, isRefused⟩
    exact refused_spares hosts isRefused
  cases operation with
  | spawn fresh => exact (spawn_spares hosts fresh).amounts hosts
  | rename other name => exact (rename_spares hosts other name).amounts hosts
  | place other x y heading =>
    rw [Operation.cues]
    split
    · rename_i own
      rw [own]
      exact place hosts x y heading
    · rename_i different
      exact (place_spares hosts different x y heading).amounts hosts
  | dismiss other =>
    refine Spares.amounts ?_ hosts
    by_cases own : other = actor
    · exact refused (decide_eq_true own)
    · exact dismiss_spares hosts own
  | insert node parent other =>
    refine Spares.amounts ?_ hosts
    by_cases own : other = actor
    · exact refused (decide_eq_true own)
    · exact insert_spares hosts own node parent
  | remove id =>
    refine Spares.amounts ?_ hosts
    by_cases own : id ∈ Forest.ids (world.programs.forest actor)
    · exact refused (decide_eq_true own)
    · exact remove_spares hosts own
  | move id other parent =>
    refine Spares.amounts ?_ hosts
    by_cases own : id ∈ Forest.ids (world.programs.forest actor)
    · exact refused (Bool.or_eq_true_iff.2 (Or.inl (decide_eq_true own)))
    · by_cases target : other = actor
      · exact refused (Bool.or_eq_true_iff.2 (Or.inr (decide_eq_true target)))
      · exact move_spares hosts own target parent
  | adjust id name value =>
    refine Spares.amounts ?_ hosts
    by_cases own : id ∈ Forest.ids (world.programs.forest actor)
    · exact refused (decide_eq_true own)
    · exact adjust_spares hosts own name value
  | start =>
    rcases Option.isSome_iff_exists.1 hosts.active with ⟨run, active⟩
    have same : Operation.start.apply world = world := by
      rw [Operation.apply, World.start, active]
    rw [same]
    exact (Spares.refl hosts.secluded).amounts hosts
  | finish => cases goesOn
  | restore => cases goesOn
  | tick other generation now => exact timed hosts rfl apart
  | tickTogether now => exact timed hosts rfl apart
  | sweep now => exact timed hosts rfl apart

theorem history (history : List Operation) :
    forall {world : World}, world.Hosts actor -> world.Undisturbed actor history ->
      AmountsTo actor (world.cues actor history) world (world.events history)
        (world.after history) := by
  induction history with
  | nil => exact fun hosts _ => (Spares.refl hosts.secluded).amounts hosts
  | cons operation rest step =>
    intro world hosts undisturbed
    have first : AmountsTo actor (operation.cues actor world) world (operation.events world)
        (operation.apply world) := apply hosts undisturbed.1 undisturbed.2.1 undisturbed.2.2.1
    exact first.append (step first.hosts undisturbed.2.2.2)

end AmountsTo

/-- Two running worlds agree on an actor.  Whatever happens in them, as long as
the actor walks and is placed in the same way in both, and nothing else
concerns it: they still agree on it in the end, and it said the same in both.

The two histories need not have an operation in common, and the worlds need not
have anything in common but the actor.  An edit that concerns the actor is
admitted in them if it is refused.  Events are compared by what the actor says,
since collisions are those of others. -/
theorem bystanders_do_not_matter {first second : World} {actor : ActorId}
    (firstSound : first.Sound) (secondSound : second.Sound)
    (running : first.run.isSome = true) (present : first.cast.contains actor = true)
    (agree : AgreeOn Actor.pose actor first second) (one two : List Operation)
    (oneUndisturbed : first.Undisturbed actor one)
    (twoUndisturbed : second.Undisturbed actor two)
    (sameCues : first.cues actor one = second.cues actor two) :
    (first.after one).Hosts actor ∧ (second.after two).Hosts actor ∧
      AgreeOn Actor.pose actor (first.after one) (second.after two) ∧
      saidBy actor (first.events one) = saidBy actor (second.events two) := by
  have firstHosts : first.Hosts actor := ⟨running, present, firstSound.programs.secludes actor⟩
  have secondHosts : second.Hosts actor :=
    ⟨agree.active.symm.trans running, agree.contains.symm.trans present,
      secondSound.programs.secludes actor⟩
  have left := AmountsTo.history one firstHosts oneUndisturbed
  have right := AmountsTo.history two secondHosts twoUndisturbed
  have leftAlone := left.alone second default agree
  have rightAlone := right.alone second default (.refl second)
  rw [← sameCues] at rightAlone
  exact ⟨left.hosts, right.hosts, leftAlone.1.trans rightAlone.1.symm,
    leftAlone.2.trans rightAlone.2.symm⟩

section Sample

def sampleLoop (number : Nat) (words : List Block) : Block :=
  ⟨⟨Uuid.ofNat number⟩, .control (.times 2), .nobody, none, words⟩

def sampleStart : List Operation :=
  [.insert (sampleLoop 10 [sampleWord 11 "once", sampleWord 12 "more"]) none ⟨Uuid.ofNat 1⟩,
    .start]

def sampleElsewhere : World :=
  World.ofActors
    [Actor.create ⟨Uuid.ofNat 3⟩ "Third" (Pose.facing (1.0 / 0.0) 7.0 0.0) "#2196F3",
      Actor.create ⟨Uuid.ofNat 1⟩ "Near" (Pose.facing 0.0 0.0 90.0) "#FF5722",
      Actor.create ⟨Uuid.ofNat 4⟩ "Fourth" (Pose.facing (-1.0 / 0.0) 0.0 0.0) "#FF5722"]
    Settings.standard 7

/-- The near actor walks, is placed, and walks again, and nothing else is done. -/
def sampleAlone : List Operation :=
  [.tick ⟨Uuid.ofNat 1⟩ 1 default, .place ⟨Uuid.ofNat 1⟩ 5.0 5.0 0.0,
    .tick ⟨Uuid.ofNat 1⟩ 1 default]

/-- The same is done to it while others walk, get programs, lose a twin to a
refused move and go. -/
def sampleCrowd : List Operation :=
  [.insert (sampleWord 20 "third") none ⟨Uuid.ofNat 3⟩, .tickTogether default,
    .insert (sampleLoop 21 [sampleWord 22 "twin", sampleWord 22 "twin"]) none ⟨Uuid.ofNat 4⟩,
    .move ⟨Uuid.ofNat 22⟩ ⟨Uuid.ofNat 4⟩ none, .move ⟨Uuid.ofNat 11⟩ ⟨Uuid.ofNat 9⟩ none,
    .place ⟨Uuid.ofNat 1⟩ 5.0 5.0 0.0, .tick ⟨Uuid.ofNat 4⟩ 1 default,
    .tick ⟨Uuid.ofNat 1⟩ 7 default, .tick ⟨Uuid.ofNat 1⟩ 1 default,
    .dismiss ⟨Uuid.ofNat 3⟩, .sweep default]

theorem sampleCrowd_does_not_matter :
    let near : ActorId := ⟨Uuid.ofNat 1⟩
    let first := sampleApart.after sampleStart
    let second := sampleElsewhere.after sampleStart
    first.Sound ∧ second.Sound ∧ first.run.isSome = true ∧ first.cast.contains near = true ∧
      AgreeOn Actor.pose near first second ∧ first.Undisturbed near sampleAlone ∧
      second.Undisturbed near sampleCrowd ∧
      first.cues near sampleAlone = second.cues near sampleCrowd ∧
      AgreeOn Actor.pose near (first.after sampleAlone) (second.after sampleCrowd) ∧
      saidBy near (second.events sampleCrowd) =
        [("once", none), ("more", none), ("once", none), ("more", none)] := by
  intro near first second
  have loopAllowed : (sampleLoop 10 [sampleWord 11 "once", sampleWord 12 "more"]).ids.Nodup ∧
      Forest.Nested [sampleLoop 10 [sampleWord 11 "once", sampleWord 12 "more"]] := by
    refine ⟨by decide, ?_⟩
    simp [sampleLoop, sampleWord, Forest.nested_cons, Forest.nested_nil, Kind.holdsBlocks]
  have settled : forall (actors : List Actor) (entropy : UInt64), actors ≠ [] ->
      (actors.map Actor.id).Nodup ->
        ((World.ofActors actors Settings.standard entropy).after sampleStart).Sound := by
    intro actors entropy some distinct
    have created : Created (World.ofActors actors Settings.standard entropy) :=
      .populated actors Settings.standard entropy _ distinct (by
        rw [World.populated, if_neg (by simpa using some)])
    exact created.sound.after_history sampleStart ⟨loopAllowed, trivial, trivial⟩
  have firstSound : first.Sound := settled _ _ (List.cons_ne_nil _ _) (by decide)
  have secondSound : second.Sound := settled _ _ (List.cons_ne_nil _ _) (by decide)
  have running : first.run.isSome = true := by decide +kernel
  have present : first.cast.contains near = true := by decide +kernel
  have agree : AgreeOn Actor.pose near first second :=
    ⟨by decide +kernel, by decide +kernel, rfl, fun _ => rfl⟩
  have alone : first.Undisturbed near sampleAlone := by decide +kernel
  have crowd : second.Undisturbed near sampleCrowd := by decide +kernel
  have sameCues : first.cues near sampleAlone = second.cues near sampleCrowd := by
    decide +kernel
  have fared := bystanders_do_not_matter firstSound secondSound running present agree
    sampleAlone sampleCrowd alone crowd sameCues
  have said : saidBy near (second.events sampleCrowd) =
      [("once", none), ("more", none), ("once", none), ("more", none)] := by decide +kernel
  exact ⟨firstSound, secondSound, running, present, agree, alone, crowd, sameCues,
    fared.2.2.1, said⟩

end Sample

end World

end SpriteStage
