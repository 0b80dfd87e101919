import SpriteStage.Proofs.Overlap

namespace SpriteStage

/-!
# The pair scan

A list of pairs tells the overlaps of some actors when it lists every two of
them that overlap, and nothing else, each pair once and with the lower
identifier first.  The scan of actors with distinct identifiers is such a
list.

An actor is compared with those after it only, and yet the order of the actors
does not matter.  Where two neighbours change places, the one that was found
becomes the one that finds, and the pair is the same.  This holds of all lists
of actors, also of those in which identifiers repeat.
-/

/-- What a list of pairs says when it tells the overlaps of some actors. -/
structure TellsOverlaps (radius : Float) (actors : List Actor) (pairs : List ActorPair) :
    Prop where
  once : pairs.Nodup
  ordered : forall pair, pair ∈ pairs -> pair.first < pair.second
  /-- A pair that is listed is that of two different actors that overlap. -/
  found : forall pair, pair ∈ pairs -> Exists fun one => Exists fun other =>
    one ∈ actors ∧ other ∈ actors ∧ one ≠ other ∧
      one.pose.overlaps other.pose radius = true ∧ pair = ActorPair.of one.id other.id
  /-- Two different actors are listed just when they overlap, whichever is named first. -/
  listed_iff : forall one other, one ∈ actors -> other ∈ actors -> one ≠ other ->
    (ActorPair.of one.id other.id ∈ pairs <-> one.pose.overlaps other.pose radius = true)

theorem ActorPair.of_comm (one other : ActorId) :
    ActorPair.of one other = ActorPair.of other one := by
  unfold ActorPair.of
  by_cases below : one ≤ other
  · rw [if_pos below]
    by_cases above : other ≤ one
    · rw [if_pos above, ActorId.eq_of_le_of_le below above]
    · rw [if_neg above]
  · have above : other ≤ one := Nat.le_of_lt (ActorId.lt_of_not_le below)
    rw [if_neg below, if_pos above]

section Rearranging

variable {radius : Float} {actors rearranged : List Actor}

theorem pairsWith_append (actor : Actor) (first second : List Actor) (radius : Float) :
    pairsWith actor (first ++ second) radius =
      pairsWith actor first radius ++ pairsWith actor second radius := by
  unfold pairsWith
  rw [List.filter_append, List.map_append]

theorem pairsWith_perm (actor : Actor) (radius : Float) (permuted : rearranged.Perm actors) :
    (pairsWith actor rearranged radius).Perm (pairsWith actor actors radius) :=
  (permuted.filter _).map _

/-- Of two actors, it does not matter which one is compared with the other. -/
theorem pairsWith_singleton_comm (one other : Actor) (radius : Float) :
    pairsWith one [other] radius = pairsWith other [one] radius := by
  unfold pairsWith
  have backward : other.pose.overlaps one.pose radius = one.pose.overlaps other.pose radius :=
    Pose.overlaps_comm _ _ _
  cases overlap : one.pose.overlaps other.pose radius with
  | false => simp [backward, overlap]
  | true => simp [backward, overlap, ActorPair.of_comm other.id]

/-- The first two actors of a list may change places. -/
theorem pairsAmong_swap (one other : Actor) (rest : List Actor) (radius : Float) :
    (pairsAmong radius (other :: one :: rest)).Perm (pairsAmong radius (one :: other :: rest)) := by
  have parts : forall first second : Actor, pairsAmong radius (first :: second :: rest) =
      pairsWith first [second] radius ++
        (pairsWith first rest radius ++ (pairsWith second rest radius ++ pairsAmong radius rest)) := by
    intro first second
    rw [pairsAmong, pairsAmong, ← List.singleton_append, pairsWith_append, List.append_assoc]
  rw [parts, parts, pairsWith_singleton_comm other one]
  -- What the two find in the rest stays apart from what they find of each other.
  apply List.Perm.append_left
  rw [← List.append_assoc, ← List.append_assoc]
  exact List.perm_append_comm.append_right _

/-- A scan finds the same pairs in whatever order the actors come. -/
theorem pairsAmong_perm (radius : Float) (permuted : rearranged.Perm actors) :
    (pairsAmong radius rearranged).Perm (pairsAmong radius actors) := by
  induction permuted with
  | nil => rfl
  | cons actor permuted step => exact (pairsWith_perm actor radius permuted).append step
  | swap one other rest => exact pairsAmong_swap one other rest radius
  | trans _ _ earlier later => exact earlier.trans later

end Rearranging

section Exactness

variable {radius : Float} {actors : List Actor} {pair : ActorPair}

/-- A pair of overlapping actors is the pair of two different actors of the list. -/
theorem OverlapAmong.exists_actors (overlap : OverlapAmong radius actors pair) :
    Exists fun one => Exists fun other => one ∈ actors ∧ other ∈ actors ∧ one ≠ other ∧
      one.pose.overlaps other.pose radius = true ∧ pair = ActorPair.of one.id other.id := by
  rcases overlap with ⟨ordered, one, other, oneMember, otherMember, isFirst, isSecond, overlap⟩
  have apart : one.id ≠ other.id := by
    rw [isFirst, isSecond]
    exact ActorId.ne_of_lt ordered
  have different : one ≠ other := fun same => apart (congrArg Actor.id same)
  have same : ActorPair.of one.id other.id = pair :=
    (pair_of_eq_iff apart).2 ⟨ordered, Or.inl ⟨isFirst, isSecond⟩⟩
  exact ⟨one, other, oneMember, otherMember, different, overlap, same.symm⟩

/-- Where identifiers are distinct, the pair of two different actors stands for them alone. -/
theorem overlapAmong_of_iff (distinct : (actors.map Actor.id).Nodup) {one other : Actor}
    (oneMember : one ∈ actors) (otherMember : other ∈ actors) (different : one ≠ other) :
    OverlapAmong radius actors (ActorPair.of one.id other.id) <->
      one.pose.overlaps other.pose radius = true := by
  have unique : forall {found sought : Actor}, found ∈ actors -> sought ∈ actors ->
      found.id = sought.id -> found = sought :=
    fun foundMember soughtMember same =>
      List.inj_on_of_nodup_map distinct foundMember soughtMember same
  have apart : one.id ≠ other.id := fun same => different (unique oneMember otherMember same)
  -- The pair names the lower identifier first, whichever of the two actors has it.
  rcases (pair_of_eq_iff apart).1 rfl with ⟨ordered, places⟩
  constructor
  · rintro ⟨_, lower, upper, lowerMember, upperMember, isFirst, isSecond, overlap⟩
    rcases places with ⟨oneFirst, otherSecond⟩ | ⟨otherFirst, oneSecond⟩
    · rw [unique oneMember lowerMember (oneFirst.trans isFirst.symm),
        unique otherMember upperMember (otherSecond.trans isSecond.symm)]
      exact overlap
    · rw [unique oneMember upperMember (oneSecond.trans isSecond.symm),
        unique otherMember lowerMember (otherFirst.trans isFirst.symm), Pose.overlaps_comm]
      exact overlap
  · intro overlap
    rcases places with ⟨oneFirst, otherSecond⟩ | ⟨otherFirst, oneSecond⟩
    · exact ⟨ordered, one, other, oneMember, otherMember, oneFirst, otherSecond, overlap⟩
    · rw [Pose.overlaps_comm] at overlap
      exact ⟨ordered, other, one, otherMember, oneMember, otherFirst, oneSecond, overlap⟩

/-- The scan of actors with distinct identifiers tells their overlaps, and the
order of the actors decides nothing but the order of the pairs.

That two actors overlap does not depend on which of them is asked; this is proved
of the distance and not assumed.  Actors in the same place overlap only if the
radius is positive, and an undefined distance overlaps with nothing. -/
theorem scan_tells_overlaps (radius : Float) (distinct : (actors.map Actor.id).Nodup) :
    TellsOverlaps radius actors (pairsAmong radius actors) ∧
      forall rearranged : List Actor, rearranged.Perm actors ->
        (pairsAmong radius rearranged).Perm (pairsAmong radius actors) := by
  have among : forall pair,
      pair ∈ pairsAmong radius actors <-> OverlapAmong radius actors pair :=
    fun _ => mem_pairsAmong_iff distinct
  have tells : TellsOverlaps radius actors (pairsAmong radius actors) :=
    { once := nodup_pairsAmong radius distinct
      ordered := fun pair listed => ((among pair).1 listed).1
      found := fun pair listed => ((among pair).1 listed).exists_actors
      listed_iff := fun _ _ oneMember otherMember different =>
        (among _).trans (overlapAmong_of_iff distinct oneMember otherMember different) }
  exact ⟨tells, fun _ permuted => pairsAmong_perm radius permuted⟩

/-- Three actors that all overlap, not in the order of their identifiers, and one far away. -/
def sampleHuddle : List Actor :=
  [Actor.create ⟨Uuid.ofNat 3⟩ "A" (Pose.facing 0 0 90) "#000",
    Actor.create ⟨Uuid.ofNat 1⟩ "B" (Pose.facing 10 0 90) "#111",
    Actor.create ⟨Uuid.ofNat 2⟩ "C" (Pose.facing 5 5 90) "#222",
    Actor.create ⟨Uuid.ofNat 4⟩ "D" (Pose.facing 500 0 90) "#333"]

def sampleHuddlePairs : List ActorPair :=
  [⟨⟨Uuid.ofNat 1⟩, ⟨Uuid.ofNat 3⟩⟩, ⟨⟨Uuid.ofNat 2⟩, ⟨Uuid.ofNat 3⟩⟩,
    ⟨⟨Uuid.ofNat 1⟩, ⟨Uuid.ofNat 2⟩⟩]

/-- Scanned from the other end, the actors overlap in the same pairs in another order. -/
theorem sampleHuddle_is_told :
    (sampleHuddle.map Actor.id).Nodup ∧ TellsOverlaps 24.0 sampleHuddle sampleHuddlePairs ∧
      pairsAmong 24.0 sampleHuddle.reverse ≠ sampleHuddlePairs ∧
      (pairsAmong 24.0 sampleHuddle.reverse).Perm sampleHuddlePairs := by
  have distinct : (sampleHuddle.map Actor.id).Nodup := by decide
  have pairs : pairsAmong 24.0 sampleHuddle = sampleHuddlePairs := by decide +kernel
  have other : pairsAmong 24.0 sampleHuddle.reverse ≠ sampleHuddlePairs := by decide +kernel
  have scan := scan_tells_overlaps 24.0 distinct
  rw [pairs] at scan
  exact ⟨distinct, scan.1, other, scan.2 sampleHuddle.reverse sampleHuddle.reverse_perm⟩

end Exactness

end SpriteStage
