import SpriteStage.Proofs.Actor.Lookup

namespace SpriteStage

/-!
# The baselines of a cast

Changing actors changes their names, poses and speech.  The poses that a reset
gives back stay as they are: an actor that joins brings its own, and one that
leaves takes it along.
-/

namespace Cast

variable {cast next : Cast} {id : ActorId} {change : Actor -> Actor}

/-- Who is there, in order, and the pose that a reset gives back to each. -/
def baselines (cast : Cast) : List (ActorId × Pose) :=
  cast.actors.map fun actor => (actor.id, actor.baseline)

theorem map_fst_baselines (cast : Cast) : cast.baselines.map Prod.fst = cast.ids := by
  rw [baselines, List.map_map]
  rfl

theorem mem_baselines {actor : Actor} (member : actor ∈ cast.actors) :
    (actor.id, actor.baseline) ∈ cast.baselines :=
  List.mem_map.2 ⟨actor, member, rfl⟩

theorem exists_of_mem_baselines {pose : Pose} (listed : (id, pose) ∈ cast.baselines) :
    Exists fun actor => actor ∈ cast.actors ∧ actor.id = id ∧ actor.baseline = pose := by
  rcases List.mem_map.1 listed with ⟨actor, member, same⟩
  rw [Prod.mk.injEq] at same
  exact ⟨actor, member, same⟩

/-- Under distinct identifiers everyone has one baseline. -/
theorem baseline_unique (distinct : cast.ids.Nodup) {one other : Pose}
    (first : (id, one) ∈ cast.baselines) (second : (id, other) ∈ cast.baselines) : one = other := by
  rw [← map_fst_baselines] at distinct
  exact congrArg Prod.snd (List.inj_on_of_nodup_map distinct first second rfl)

/-! ## Single operations -/

theorem baselines_modify (keeps : forall actor : Actor,
    ((change actor).id, (change actor).baseline) = (actor.id, actor.baseline)) :
    (cast.modify id change).baselines = cast.baselines :=
  map_modifyFirst (fun actor => (actor.id, actor.baseline)) keeps cast.actors

theorem baselines_reset (cast : Cast) : cast.reset.baselines = cast.baselines := by
  rw [baselines, reset, List.map_map]
  rfl

theorem baselines_hush (cast : Cast) : cast.hush.baselines = cast.baselines := by
  rw [baselines, hush, List.map_map]
  rfl

theorem baselines_remove {removed : Actor} (done : cast.remove id = .ok (removed, next)) :
    next.baselines.Sublist cast.baselines := by
  rcases remove_eq_ok_iff.1 done with ⟨_, _, rfl⟩
  exact (List.eraseP_sublist).map _

/-- An actor that joins is silent and at its baseline, and comes last. -/
theorem spawn_eq_ok {fresh : ActorId} (spawned : cast.spawn fresh = .ok next) :
    Exists fun created : Actor => created.id = fresh ∧ created.pose = created.baseline ∧
      created.speech = none ∧ next.actors = cast.actors ++ [created] := by
  unfold spawn at spawned
  split at spawned
  · cases spawned
  · cases spawned
    exact ⟨Actor.create fresh _ _ _, rfl, rfl, rfl, rfl⟩

end Cast

end SpriteStage
