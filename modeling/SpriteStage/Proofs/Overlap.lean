import Mathlib.Data.List.Nodup
import SpriteStage.Overlap
import SpriteStage.Proofs.Number.Difference

namespace SpriteStage

/-!
# Which pairs overlap

In a list of actors with distinct identifiers, the scan finds every pair of
actors that overlap, once, with the lower identifier first.  It does not
matter which of the two comes first in the list, since overlapping is
symmetric.  A refresh of the debounce set then holds just the pairs found, and
lets those out that were not held before.
-/

theorem Pose.overlaps_comm (first second : Pose) (radius : Float) :
    first.overlaps second radius = second.overlaps first radius := by
  unfold Pose.overlaps Number.distance
  rw [Number.abs_sub_comm first.x, Number.abs_sub_comm first.y]

namespace ActorId

variable {one other : ActorId}

theorem eq_of_le_of_le (below : one ≤ other) (above : other ≤ one) : one = other := by
  have same : one.uuid.bits.toNat = other.uuid.bits.toNat := Nat.le_antisymm below above
  rcases one with ⟨⟨bits⟩⟩
  rcases other with ⟨⟨otherBits⟩⟩
  have sameBits : bits = otherBits := BitVec.eq_of_toNat_eq same
  rw [sameBits]

theorem lt_of_le_of_ne (below : one ≤ other) (different : one ≠ other) : one < other :=
  Nat.lt_of_le_of_ne below fun same => different (eq_of_le_of_le below (Nat.le_of_eq same.symm))

theorem lt_of_not_le (above : ¬ one ≤ other) : other < one := Nat.lt_of_not_le above

theorem ne_of_lt (below : one < other) : one ≠ other := by
  rintro rfl
  exact Nat.lt_irrefl _ below

end ActorId

theorem ActorPair.involves_iff {pair : ActorPair} {actor : ActorId} :
    pair.involves actor = true <-> actor = pair.first ∨ actor = pair.second := by
  rw [ActorPair.involves, Bool.or_eq_true, decide_eq_true_eq, decide_eq_true_eq,
    @eq_comm _ actor, @eq_comm _ actor]

/-- A pair of two actors of a list that overlap, the lower identifier first. -/
def OverlapAmong (radius : Float) (actors : List Actor) (pair : ActorPair) : Prop :=
  pair.first < pair.second ∧ Exists fun one => Exists fun other =>
    one ∈ actors ∧ other ∈ actors ∧ one.id = pair.first ∧ other.id = pair.second ∧
      one.pose.overlaps other.pose radius = true

section Scan

variable {radius : Float} {actor : Actor} {actors others : List Actor} {pair : ActorPair}

theorem mem_pairsWith_iff : pair ∈ pairsWith actor others radius <->
    Exists fun other => other ∈ others ∧ actor.pose.overlaps other.pose radius = true ∧
      ActorPair.of actor.id other.id = pair := by
  simp [pairsWith, and_assoc]

theorem pair_of_eq_iff {one other : ActorId} (different : one ≠ other) :
    ActorPair.of one other = pair <->
      pair.first < pair.second ∧
        ((one = pair.first ∧ other = pair.second) ∨ (other = pair.first ∧ one = pair.second)) := by
  rcases pair with ⟨first, second⟩
  unfold ActorPair.of
  dsimp only
  split
  · rename_i below
    rw [ActorPair.mk.injEq]
    constructor
    · rintro ⟨rfl, rfl⟩
      exact ⟨ActorId.lt_of_le_of_ne below different, Or.inl ⟨rfl, rfl⟩⟩
    · rintro ⟨ordered, same | ⟨rfl, rfl⟩⟩
      · exact same
      · exact absurd ordered (Nat.not_lt.2 below)
  · rename_i above
    rw [ActorPair.mk.injEq]
    constructor
    · rintro ⟨rfl, rfl⟩
      exact ⟨ActorId.lt_of_not_le above, Or.inr ⟨rfl, rfl⟩⟩
    · rintro ⟨ordered, ⟨rfl, rfl⟩ | same⟩
      · exact absurd (Nat.le_of_lt ordered) above
      · exact same

/-- The scan of actors with distinct identifiers finds the overlapping pairs. -/
theorem mem_pairsAmong_iff (distinct : (actors.map Actor.id).Nodup) :
    pair ∈ pairsAmong radius actors <-> OverlapAmong radius actors pair := by
  induction actors with
  | nil => simp [pairsAmong, OverlapAmong]
  | cons actor rest step =>
    rw [List.map_cons, List.nodup_cons] at distinct
    rw [pairsAmong, List.mem_append, mem_pairsWith_iff, step distinct.2]
    constructor
    · rintro (⟨other, member, overlap, same⟩ | ⟨ordered, one, other, oneMember, otherMember, rest⟩)
      · have different : actor.id ≠ other.id := fun equal =>
          distinct.1 (equal ▸ List.mem_map_of_mem member)
        rcases (pair_of_eq_iff different).1 same with
          ⟨ordered, ⟨isFirst, isSecond⟩ | ⟨isFirst, isSecond⟩⟩
        · exact ⟨ordered, actor, other, List.mem_cons_self, List.mem_cons_of_mem _ member,
            isFirst, isSecond, overlap⟩
        · rw [Pose.overlaps_comm] at overlap
          exact ⟨ordered, other, actor, List.mem_cons_of_mem _ member, List.mem_cons_self,
            isFirst, isSecond, overlap⟩
      · exact ⟨ordered, one, other, List.mem_cons_of_mem _ oneMember,
          List.mem_cons_of_mem _ otherMember, rest⟩
    · rintro ⟨ordered, one, other, oneMember, otherMember, isFirst, isSecond, overlap⟩
      have apart : one.id ≠ other.id := by
        rw [isFirst, isSecond]
        exact ActorId.ne_of_lt ordered
      rcases List.mem_cons.1 oneMember with rfl | oneInRest
      · rcases List.mem_cons.1 otherMember with rfl | otherInRest
        · exact absurd rfl apart
        · exact Or.inl ⟨other, otherInRest, overlap,
            (pair_of_eq_iff apart).2 ⟨ordered, Or.inl ⟨isFirst, isSecond⟩⟩⟩
      · rcases List.mem_cons.1 otherMember with rfl | otherInRest
        · rw [Pose.overlaps_comm] at overlap
          exact Or.inl ⟨one, oneInRest, overlap,
            (pair_of_eq_iff (Ne.symm apart)).2 ⟨ordered, Or.inr ⟨isFirst, isSecond⟩⟩⟩
        · exact Or.inr ⟨ordered, one, other, oneInRest, otherInRest, isFirst, isSecond, overlap⟩

theorem pair_of_right_injective {one other third : ActorId}
    (same : ActorPair.of one other = ActorPair.of one third) : other = third := by
  unfold ActorPair.of at same
  split at same <;> split at same <;> rw [ActorPair.mk.injEq] at same
  · exact same.2
  · exact same.2.trans same.1
  · exact same.1.trans same.2
  · exact same.1

theorem nodup_pairsWith (actor : Actor) (radius : Float)
    (distinct : (others.map Actor.id).Nodup) : (pairsWith actor others radius).Nodup := by
  have found : (others.filter fun other => actor.pose.overlaps other.pose radius).Nodup :=
    distinct.of_map.filter _
  apply found.map_on
  intro one oneMember other otherMember same
  exact List.inj_on_of_nodup_map distinct (List.mem_of_mem_filter oneMember)
    (List.mem_of_mem_filter otherMember) (pair_of_right_injective same)

/-- A pair is found only once: where its earlier actor stands in the list. -/
theorem nodup_pairsAmong (radius : Float) (distinct : (actors.map Actor.id).Nodup) :
    (pairsAmong radius actors).Nodup := by
  induction actors with
  | nil => exact List.nodup_nil
  | cons actor rest step =>
    rw [List.map_cons, List.nodup_cons] at distinct
    rw [pairsAmong, List.nodup_append]
    refine ⟨nodup_pairsWith actor radius distinct.2, step distinct.2, ?_⟩
    rintro pair found _ later rfl
    rcases mem_pairsWith_iff.1 found with ⟨other, member, _, same⟩
    have different : actor.id ≠ other.id := fun equal =>
      distinct.1 (equal ▸ List.mem_map_of_mem member)
    rcases (mem_pairsAmong_iff distinct.2).1 later with
      ⟨_, one, two, oneMember, twoMember, isFirst, isSecond, _⟩
    rcases ((pair_of_eq_iff different).1 same).2 with ⟨own, _⟩ | ⟨_, own⟩
    · exact distinct.1 (own.trans isFirst.symm ▸ List.mem_map_of_mem oneMember)
    · exact distinct.1 (own.trans isSecond.symm ▸ List.mem_map_of_mem twoMember)

/-- Whatever their identifiers, only actors of the list are in a pair. -/
theorem ids_of_mem_pairsAmong (found : pair ∈ pairsAmong radius actors) :
    pair.first ∈ actors.map Actor.id ∧ pair.second ∈ actors.map Actor.id := by
  induction actors with
  | nil => exact absurd found List.not_mem_nil
  | cons actor rest step =>
    rw [pairsAmong, List.mem_append, mem_pairsWith_iff] at found
    rw [List.map_cons]
    rcases found with ⟨other, member, _, rfl⟩ | later
    · have listed : other.id ∈ rest.map Actor.id := List.mem_map_of_mem member
      unfold ActorPair.of
      split
      · exact ⟨List.mem_cons_self, List.mem_cons_of_mem _ listed⟩
      · exact ⟨List.mem_cons_of_mem _ listed, List.mem_cons_self⟩
    · exact (step later).imp (List.mem_cons_of_mem _) (List.mem_cons_of_mem _)

end Scan

namespace Debounce

variable {debounce : Debounce} {held overlapping : List ActorPair} {pair : ActorPair}

/-- Of a list that names no pair twice, the pairs that are not held come out. -/
theorem fresh_eq_filter (distinct : overlapping.Nodup) :
    forall held, fresh held overlapping = overlapping.filter fun pair => pair ∉ held := by
  induction overlapping with
  | nil => exact fun _ => rfl
  | cons pair rest step =>
    intro held
    rw [List.nodup_cons] at distinct
    rw [fresh]
    split
    · rename_i known
      rw [step distinct.2, List.filter_cons_of_neg (by simpa using known)]
    · rename_i new
      rw [step distinct.2, List.filter_cons_of_pos (by simpa using new)]
      congr 1
      apply List.filter_congr
      intro other member
      have different : other ≠ pair := by
        rintro rfl
        exact distinct.1 member
      simp [different]

theorem mem_started_iff (distinct : overlapping.Nodup) :
    pair ∈ (debounce.refresh overlapping).1 <-> pair ∈ overlapping ∧ pair ∉ debounce.held := by
  unfold refresh
  dsimp only
  rw [fresh_eq_filter distinct]
  simp only [List.mem_filter, decide_eq_true_eq, not_and]
  constructor
  · rintro ⟨member, new⟩
    exact ⟨member, fun known => new known member⟩
  · rintro ⟨member, new⟩
    exact ⟨member, fun known _ => new known⟩

theorem nodup_started (distinct : overlapping.Nodup) :
    (debounce.refresh overlapping).1.Nodup := by
  unfold refresh
  dsimp only
  rw [fresh_eq_filter distinct]
  exact distinct.filter _

theorem mem_of_mem_fresh {held : List ActorPair} (member : pair ∈ fresh held overlapping) :
    pair ∈ overlapping := by
  induction overlapping generalizing held with
  | nil => exact member
  | cons other rest step =>
    rw [fresh] at member
    split at member
    · exact List.mem_cons_of_mem _ (step member)
    · rcases List.mem_cons.1 member with rfl | later
      · exact List.mem_cons_self
      · exact List.mem_cons_of_mem _ (step later)

theorem held_refresh : (debounce.refresh overlapping).2.held =
    (debounce.held.filter fun pair => pair ∈ overlapping) ++ (debounce.refresh overlapping).1 :=
  rfl

/-- Whether or not pairs repeat, a refresh holds nothing but pairs that overlap. -/
theorem mem_of_mem_held_refresh (member : pair ∈ (debounce.refresh overlapping).2.held) :
    pair ∈ overlapping := by
  rw [held_refresh, List.mem_append, List.mem_filter, decide_eq_true_eq] at member
  rcases member with ⟨_, kept⟩ | started
  · exact kept
  · exact mem_of_mem_fresh started

/-- After a refresh just the pairs that overlap are held. -/
theorem mem_held_refresh_iff (distinct : overlapping.Nodup) :
    pair ∈ (debounce.refresh overlapping).2.held <-> pair ∈ overlapping := by
  have started : pair ∈ (debounce.refresh overlapping).1 <->
      pair ∈ overlapping ∧ pair ∉ debounce.held := mem_started_iff distinct
  rw [held_refresh, List.mem_append, started, List.mem_filter, decide_eq_true_eq]
  constructor
  · rintro (⟨_, member⟩ | ⟨member, _⟩)
    · exact member
    · exact member
  · intro member
    by_cases known : pair ∈ debounce.held
    · exact Or.inl ⟨known, member⟩
    · exact Or.inr ⟨member, known⟩

theorem nodup_held_refresh (heldDistinct : debounce.held.Nodup) (distinct : overlapping.Nodup) :
    (debounce.refresh overlapping).2.held.Nodup := by
  rw [held_refresh, List.nodup_append]
  refine ⟨heldDistinct.filter _, nodup_started distinct, ?_⟩
  rintro pair kept _ started rfl
  exact ((mem_started_iff distinct).1 started).2 (List.mem_of_mem_filter kept)

/-- A refresh with just the pairs that are held changes nothing. -/
theorem refresh_of_held (distinct : overlapping.Nodup)
    (same : forall pair, pair ∈ overlapping <-> pair ∈ debounce.held) :
    debounce.refresh overlapping = ([], debounce) := by
  have none : (debounce.refresh overlapping).1 = [] := by
    rw [List.eq_nil_iff_forall_not_mem]
    intro pair member
    rw [mem_started_iff distinct, same] at member
    exact member.2 member.1
  have kept : debounce.held.filter (fun pair => pair ∈ overlapping) = debounce.held :=
    List.filter_eq_self.2 fun pair member => decide_eq_true ((same pair).2 member)
  have held : (debounce.refresh overlapping).2.held = debounce.held := by
    rw [held_refresh, none, kept, List.append_nil]
  exact Prod.ext none (congrArg Debounce.mk held)

end Debounce

end SpriteStage
