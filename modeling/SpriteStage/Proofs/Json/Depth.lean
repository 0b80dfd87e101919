import SpriteStage.Json.Fields
import SpriteStage.Json.Reader

namespace SpriteStage.Json

/-!
# How deep a value can be that was read

The reader gives nothing that is nested deeper than it has room for, whatever
the text is.  What a field of a record holds is less deep than the record, and
so is an item of a list.
-/

/-- Whether reading with an amount of fuel keeps to the room that is given. -/
structure KeepsRoom (fuel : Nat) : Prop where
  value : forall {room text value tail}, readValue fuel room text = some (value, tail) ->
    value.depth ≤ room
  items : forall {room text items tail}, readItems fuel room text = some (items, tail) ->
    depthItems items ≤ room
  members : forall {room text members tail},
    readMembers fuel room text = some (some members, tail) -> depthMembers members ≤ room

variable {fuel room : Nat} {text tail : List Char}

theorem KeepsRoom.readValue_succ (keeps : KeepsRoom fuel) {value : Json}
    (read : readValue (fuel + 1) room text = some (value, tail)) : value.depth ≤ room := by
  -- A list or an object needs room of its own for its brackets.
  have opened : forall {inside : Json} {depth : Nat}, inside.depth = 1 + depth ->
      depth ≤ room - 1 -> (if room = 0 then void else inside).depth ≤ room := by
    intro inside depth nested within
    split
    · exact Nat.zero_le room
    · omega
  rw [readValue] at read
  split at read
  · cases read
  · split at read
    · cases read
      exact Nat.zero_le room
    · cases read
      exact Nat.zero_le room
    · cases read
  · dsimp only at read
    split at read
    · rename_i found
      cases read
      refine opened rfl ?_
      split at found
      · cases found
        exact Nat.zero_le _
      · exact keeps.items found
    · cases read
  · dsimp only at read
    split at read
    · rename_i found
      cases read
      refine opened rfl ?_
      split at found
      · cases found
        exact Nat.zero_le _
      · exact keeps.members found
    · cases read
      exact Nat.zero_le room
    · cases read
  · rcases Option.map_eq_some_iff.1 read with ⟨_, _, same⟩
    cases same
    exact Nat.zero_le room
  · rcases Option.map_eq_some_iff.1 read with ⟨_, _, same⟩
    cases same
    exact Nat.zero_le room
  · rcases Option.map_eq_some_iff.1 read with ⟨_, _, same⟩
    cases same
    exact Nat.zero_le room
  · split at read
    · split at read
      · cases read
        exact Nat.zero_le room
      · cases read
        exact Nat.zero_le room
    · cases read

theorem KeepsRoom.readItems_succ (keeps : KeepsRoom fuel) {items : List Json}
    (read : readItems (fuel + 1) room text = some (items, tail)) : depthItems items ≤ room := by
  rw [readItems] at read
  split at read
  · cases read
  · rename_i own
    split at read
    · cases read
      exact Nat.max_le.2 ⟨keeps.value own, Nat.zero_le room⟩
    · split at read
      · rename_i others
        cases read
        exact Nat.max_le.2 ⟨keeps.value own, keeps.items others⟩
      · cases read
    · cases read

theorem KeepsRoom.readMembers_succ (keeps : KeepsRoom fuel) {members : List (String × Json)}
    (read : readMembers (fuel + 1) room text = some (some members, tail)) :
    depthMembers members ≤ room := by
  rw [readMembers] at read
  split at read
  · split at read
    · cases read
    · rename_i key _ _
      split at read
      · split at read
        · cases read
        · rename_i own
          dsimp only at read
          split at read
          · cases key with
            | none => cases read
            | some name =>
              cases read
              exact Nat.max_le.2 ⟨keeps.value own, Nat.zero_le room⟩
          · split at read
            · rename_i others
              cases key with
              | none => cases read
              | some name =>
                rcases Option.map_eq_some_iff.1 (Prod.mk.inj (Option.some.inj read)).1 with
                  ⟨later, same, joined⟩
                rw [same] at others
                rw [← joined]
                exact Nat.max_le.2 ⟨keeps.value own, keeps.members others⟩
            · cases read
          · cases read
      · cases read
  · cases read

/-- Reading keeps to the room that is given. -/
theorem keepsRoom (fuel : Nat) : KeepsRoom fuel := by
  induction fuel with
  | zero => exact ⟨nofun, nofun, nofun⟩
  | succ fuel keeps => exact ⟨keeps.readValue_succ, keeps.readItems_succ, keeps.readMembers_succ⟩

/-- What is read of a text is not nested deeper than the limit. -/
theorem depth_le_of_ofText? {text : String} {value : Json} (read : ofText? text = some value) :
    value.depth ≤ nestingLimit := by
  rw [ofText?, ofChars?] at read
  split at read
  · rename_i found
    split at read
    · cases read
      exact (keepsRoom _).value found
    · cases read
  · cases read

/-! ## Records and lists -/

theorem depth_le_depthItems {item : Json} {items : List Json} (inside : item ∈ items) :
    item.depth ≤ depthItems items := by
  induction items with
  | nil => cases inside
  | cons first rest step =>
    rw [depthItems]
    rcases List.mem_cons.1 inside with rfl | later
    · exact Nat.le_max_left _ _
    · exact Nat.le_trans (step later) (Nat.le_max_right _ _)

theorem depth_le_depthMembers {member : String × Json} {members : List (String × Json)}
    (inside : member ∈ members) : member.2.depth ≤ depthMembers members := by
  induction members with
  | nil => cases inside
  | cons first rest step =>
    rw [depthMembers]
    rcases List.mem_cons.1 inside with rfl | later
    · exact Nat.le_max_left _ _
    · exact Nat.le_trans (step later) (Nat.le_max_right _ _)

/-- Everything in a list that was made one by one was made of something. -/
theorem exists_of_mem_mapM {Source Result : Type} {make : Source -> Option Result} :
    forall {sources : List Source} {results : List Result}, sources.mapM make = some results ->
      forall result, result ∈ results ->
        Exists fun source => source ∈ sources ∧ make source = some result
  | [], _, made, result, inside => by
    cases made
    cases inside
  | first :: rest, results, made, result, inside => by
    rw [List.mapM_cons] at made
    rcases Option.bind_eq_some_iff.1 made with ⟨own, ownMade, made⟩
    rcases Option.bind_eq_some_iff.1 made with ⟨others, othersMade, made⟩
    cases made
    rcases List.mem_cons.1 inside with rfl | later
    · exact ⟨first, List.mem_cons_self, ownMade⟩
    · rcases exists_of_mem_mapM othersMade result later with ⟨source, member, made⟩
      exact ⟨source, List.mem_cons_of_mem _ member, made⟩

theorem mem_of_itemSlots {names : List String} {items : List Json} {found : List Slot}
    (split : itemSlots names items = some found) {value : Json} (given : .given value ∈ found) :
    value ∈ items := by
  induction names generalizing items found with
  | nil =>
    cases items with
    | nil =>
      cases split
      cases given
    | cons item items => cases split
  | cons name names step =>
    cases items with
    | nil =>
      rcases Option.map_eq_some_iff.1 split with ⟨rest, others, rfl⟩
      rcases List.mem_cons.1 given with same | later
      · cases same
      · exact absurd (step others later) List.not_mem_nil
    | cons item items =>
      rcases Option.map_eq_some_iff.1 split with ⟨rest, others, rfl⟩
      rcases List.mem_cons.1 given with same | later
      · cases same
        exact List.mem_cons_self
      · exact List.mem_cons_of_mem _ (step others later)

/-- What a field of a record holds is less deep than the record. -/
theorem depth_lt_of_slots {names : List String} {record : Json} {found : List Slot}
    (split : record.slots names = some found) {value : Json} (given : .given value ∈ found) :
    value.depth < record.depth := by
  cases record with
  | object members =>
    rcases exists_of_mem_mapM split _ given with ⟨name, _, slot⟩
    rw [memberSlot] at slot
    split at slot
    · cases slot
    · rename_i only
      cases slot
      have inside : value ∈ valuesOf name members := by
        rw [only]
        exact List.mem_singleton_self value
      rcases List.mem_map.1 inside with ⟨member, kept, rfl⟩
      have bound := depth_le_depthMembers (List.mem_filter.1 kept).1
      rw [depth]
      omega
    · cases slot
  | array items =>
    have bound := depth_le_depthItems (mem_of_itemSlots split given)
    rw [depth]
    omega
  | _ => cases split

/-- What is read as a list is deeper than everything that its items were read
from. -/
theorem depth_lt_of_asListOf {Item : Type} {decode : Json -> Option Item} {value : Json}
    {items : List Item} (read : value.asListOf decode = some items) :
    0 < value.depth ∧ forall item, item ∈ items -> Exists fun written =>
      decode written = some item ∧ written.depth < value.depth := by
  rcases Option.bind_eq_some_iff.1 read with ⟨written, listed, made⟩
  cases value with
  | array sources =>
    cases listed
    rw [depth]
    refine ⟨by omega, ?_⟩
    intro item inside
    rcases exists_of_mem_mapM made item inside with ⟨source, member, made⟩
    have bound := depth_le_depthItems member
    exact ⟨source, made, by omega⟩
  | _ => cases listed

/-- What is read from a field that must be there was given by the field. -/
theorem Slot.exists_of_required {Content : Type} {content : Json -> Option Content}
    {slot : Slot} {found : Content} (read : slot.required content = some found) :
    Exists fun value => slot = .given value ∧ content value = some found := by
  cases slot with
  | given value => exact ⟨value, rfl, read⟩
  | absent => cases read
  | cut => cases read

end SpriteStage.Json
