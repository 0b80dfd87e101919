import Mathlib.Data.List.Nodup
import Mathlib.Data.List.Perm.Subperm
import SpriteStage.Actor.Cast

namespace SpriteStage

/-!
# Looking actors up

Changing an actor keeps the identifiers of the cast and their order as long as
the change keeps the identifier of the actor.  Every change that the stage
makes is of that sort.  Changes of one actor after each other are one change.
-/

namespace Cast

variable {cast : Cast} {id other : ActorId} {change : Actor -> Actor}

theorem contains_iff_mem_ids {cast : Cast} {id : ActorId} :
    cast.contains id = true <-> id ∈ cast.ids := by
  simp [contains, get?, ids, List.find?_isSome]

theorem exists_get?_of_contains (present : cast.contains id = true) :
    Exists fun actor => cast.get? id = some actor := Option.isSome_iff_exists.1 present

theorem id_of_get? {actor : Actor} (found : cast.get? id = some actor) : actor.id = id := by
  simpa using List.find?_some found

theorem mem_of_get? {actor : Actor} (found : cast.get? id = some actor) :
    actor ∈ cast.actors := List.mem_of_find?_eq_some found

theorem get?_of_mem {actor : Actor} (distinct : cast.ids.Nodup) (member : actor ∈ cast.actors) :
    cast.get? actor.id = some actor := by
  have there : cast.contains actor.id = true := contains_iff_mem_ids.2 (List.mem_map_of_mem member)
  rcases exists_get?_of_contains there with ⟨found, isFound⟩
  rw [isFound]
  exact congrArg some
    (List.inj_on_of_nodup_map distinct (mem_of_get? isFound) member (id_of_get? isFound))

/-! ## Changing the first actor of a list -/

/-- What a change keeps of every actor stays when one of them is changed. -/
theorem map_modifyFirst {Value : Type} (view : Actor -> Value)
    (keeps : forall actor, view (change actor) = view actor) (actors : List Actor) :
    (modifyFirst id change actors).map view = actors.map view := by
  induction actors with
  | nil => rfl
  | cons actor rest step =>
    rw [modifyFirst]
    split
    · rw [List.map_cons, List.map_cons, keeps]
    · rw [List.map_cons, List.map_cons, step]

theorem modifyFirst_modifyFirst (keeps : forall actor, (change actor).id = actor.id)
    (next : Actor -> Actor) (actors : List Actor) :
    modifyFirst id next (modifyFirst id change actors) =
      modifyFirst id (fun actor => next (change actor)) actors := by
  induction actors with
  | nil => rfl
  | cons actor rest step =>
    by_cases found : actor.id = id
    · simp only [modifyFirst, if_pos found, keeps]
    · simp only [modifyFirst, if_neg found, step]

theorem modifyFirst_same (actors : List Actor) :
    modifyFirst id (fun actor => actor) actors = actors := by
  induction actors with
  | nil => rfl
  | cons actor rest step => simp only [modifyFirst, step, ite_self]

theorem modifyFirst_of_notMem (change : Actor -> Actor) {actors : List Actor}
    (absent : id ∉ actors.map Actor.id) : modifyFirst id change actors = actors := by
  induction actors with
  | nil => rfl
  | cons actor rest step =>
    rw [List.map_cons, List.mem_cons, not_or] at absent
    rw [modifyFirst, if_neg (Ne.symm absent.1), step absent.2]

theorem find?_modifyFirst (keeps : forall actor, (change actor).id = actor.id)
    (actors : List Actor) :
    (modifyFirst id change actors).find? (fun actor => actor.id = other) =
      if other = id then (actors.find? fun actor => actor.id = id).map change
      else actors.find? fun actor => actor.id = other := by
  induction actors with
  | nil => simp [modifyFirst]
  | cons actor rest step =>
    rw [modifyFirst]
    by_cases found : actor.id = id
    · by_cases same : other = id
      · simp [found, same, keeps]
      · have apart : id ≠ other := Ne.symm same
        simp [found, same, keeps, apart]
    · by_cases hit : actor.id = other
      · have apart : other ≠ id := fun same => found (hit.trans same)
        simp [hit, apart]
      · simp [found, hit, step]

/-! ## Changing an actor of a cast -/

theorem ids_modify (keeps : forall actor, (change actor).id = actor.id) :
    (cast.modify id change).ids = cast.ids := map_modifyFirst Actor.id keeps cast.actors

theorem contains_modify (keeps : forall actor, (change actor).id = actor.id) :
    (cast.modify id change).contains other = cast.contains other := by
  apply Bool.eq_iff_iff.mpr
  rw [contains_iff_mem_ids, contains_iff_mem_ids, ids_modify keeps]

theorem get?_modify (keeps : forall actor, (change actor).id = actor.id) :
    (cast.modify id change).get? other =
      if other = id then (cast.get? id).map change else cast.get? other :=
  find?_modifyFirst keeps cast.actors

theorem modify_modify (keeps : forall actor, (change actor).id = actor.id)
    (next : Actor -> Actor) :
    (cast.modify id change).modify id next = cast.modify id fun actor => next (change actor) :=
  congrArg (fun actors => { cast with actors := actors })
    (modifyFirst_modifyFirst keeps next cast.actors)

@[simp] theorem modify_same (cast : Cast) (id : ActorId) :
    cast.modify id (fun actor => actor) = cast :=
  congrArg (fun actors => { cast with actors := actors }) (modifyFirst_same cast.actors)

/-- A change of an actor that is not in the cast changes nothing. -/
theorem modify_of_absent (change : Actor -> Actor) (absent : ¬ cast.contains id = true) :
    cast.modify id change = cast :=
  congrArg (fun actors => { cast with actors := actors })
    (modifyFirst_of_notMem change fun member => absent (contains_iff_mem_ids.2 member))

/-! ## Edits of the cast -/

variable {next : Cast}

theorem ids_reset (cast : Cast) : cast.reset.ids = cast.ids := by
  simp only [ids, reset, List.map_map]
  rfl

theorem ids_hush (cast : Cast) : cast.hush.ids = cast.ids := by
  simp only [ids, hush, List.map_map]
  rfl

theorem ids_spawn {fresh : ActorId} (spawned : cast.spawn fresh = .ok next) :
    next.ids = cast.ids ++ [fresh] := by
  unfold spawn at spawned
  split at spawned
  · cases spawned
  · cases spawned
    simp only [ids, insert, List.map_append]
    rfl

/-- Who is there already is found as before after an actor joined. -/
theorem get?_spawn_of_contains {fresh : ActorId} (spawned : cast.spawn fresh = .ok next)
    (present : cast.contains other = true) : next.get? other = cast.get? other := by
  rcases exists_get?_of_contains present with ⟨actor, found⟩
  unfold spawn at spawned
  split at spawned
  · cases spawned
  · cases spawned
    have inActors : cast.actors.find? (fun actor => actor.id = other) = some actor := found
    rw [found, get?, insert, List.find?_append, inActors]
    rfl

theorem map_id_eraseP (actors : List Actor) :
    (actors.eraseP fun actor => actor.id = id).map Actor.id = (actors.map Actor.id).erase id := by
  induction actors with
  | nil => rfl
  | cons actor rest step =>
    by_cases same : actor.id = id
    · simp [same]
    · simp [same, step]

theorem find?_eraseP_of_ne (different : other ≠ id) (actors : List Actor) :
    (actors.eraseP fun actor => actor.id = id).find? (fun actor => actor.id = other) =
      actors.find? fun actor => actor.id = other := by
  induction actors with
  | nil => rfl
  | cons actor rest step =>
    by_cases same : actor.id = id
    · have apart : id ≠ other := Ne.symm different
      simp [same, apart]
    · by_cases hit : actor.id = other
      · simp [hit, different]
      · simp [same, hit, step]

/-- Removing an actor takes its first row, which must not be the only one. -/
theorem remove_eq_ok_iff {removed : Actor} : cast.remove id = .ok (removed, next) <->
    cast.get? id = some removed ∧ cast.size ≠ 1 ∧
      next = { cast with actors := cast.actors.eraseP fun other => other.id = id } := by
  rw [Cast.remove]
  cases found : cast.get? id with
  | none => exact iff_of_false nofun nofun
  | some actor =>
    dsimp only
    split
    · rename_i single
      exact iff_of_false nofun fun done => done.2.1 single
    · rename_i several
      rw [Except.ok.injEq, Prod.mk.injEq, Option.some.injEq, @eq_comm _ _ next]
      exact and_congr_right fun _ => (and_iff_right several).symm

theorem remove_eq_ok {removed : Actor} (done : cast.remove id = .ok (removed, next)) :
    cast.get? id = some removed ∧ cast.size ≠ 1 ∧ next.ids = cast.ids.erase id := by
  rcases remove_eq_ok_iff.1 done with ⟨found, several, rfl⟩
  exact ⟨found, several, map_id_eraseP cast.actors⟩

/-- Everyone but the actor that is removed is found as before. -/
theorem get?_remove_of_ne {removed : Actor} (done : cast.remove id = .ok (removed, next))
    (different : other ≠ id) : next.get? other = cast.get? other := by
  rcases remove_eq_ok_iff.1 done with ⟨_, _, rfl⟩
  exact find?_eraseP_of_ne different cast.actors

/-- An actor can leave just when it is there and is not alone. -/
theorem exists_remove_iff (distinct : cast.ids.Nodup) :
    (Exists fun removed => Exists fun next => cast.remove id = .ok (removed, next)) <->
      id ∈ cast.ids ∧ Exists fun other => other ∈ cast.ids ∧ other ≠ id := by
  have size : cast.ids.length = cast.size := List.length_map _
  simp only [remove_eq_ok_iff]
  constructor
  · rintro ⟨removed, _, found, several, _⟩
    have member : id ∈ cast.ids :=
      id_of_get? found ▸ List.mem_map_of_mem (mem_of_get? found)
    refine ⟨member, ?_⟩
    by_contra alone
    have few : cast.ids.length ≤ [id].length := by
      refine (List.subperm_of_subset distinct ?_).length_le
      intro other listed
      by_contra different
      exact alone ⟨other, listed, fun same => different (List.mem_singleton.2 same)⟩
    have some := List.length_pos_of_mem member
    rw [List.length_singleton] at few
    omega
  · rintro ⟨member, other, listed, different⟩
    rcases exists_get?_of_contains (contains_iff_mem_ids.2 member) with ⟨removed, found⟩
    refine ⟨removed, _, found, ?_, rfl⟩
    intro single
    rcases List.length_eq_one_iff.1 (size.trans single) with ⟨sole, ids⟩
    rw [ids, List.mem_singleton] at member listed
    exact different (listed.trans member.symm)

/-- Where identifiers are distinct, removing an actor leaves all others. -/
theorem eraseP_eq_filter {actors : List Actor} (distinct : (actors.map Actor.id).Nodup) :
    actors.eraseP (fun other => other.id = id) = actors.filter fun other => other.id ≠ id := by
  induction actors with
  | nil => rfl
  | cons actor rest step =>
    rw [List.map_cons, List.nodup_cons] at distinct
    by_cases same : actor.id = id
    · have apart : forall other, other ∈ rest -> other.id ≠ id := fun other member equal =>
        distinct.1 (same ▸ equal ▸ List.mem_map_of_mem member)
      rw [List.eraseP_cons_of_pos (by simpa using same),
        List.filter_cons_of_neg (by simpa using same),
        List.filter_eq_self.2 (by simpa using apart)]
    · rw [List.eraseP_cons_of_neg (by simpa using same),
        List.filter_cons_of_pos (by simpa using same), step distinct.2]

end Cast

end SpriteStage
