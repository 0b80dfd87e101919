import SpriteStage.Codec.Block
import SpriteStage.Proofs.Json.Reading

namespace SpriteStage.Json

/-!
# Taking apart what was put together

Every record of the library is written as an object that names each of its
fields once.  Its slots are then the written values in order, and a tag in
front of them is found and taken away.
-/

/-! ## Records -/

theorem valuesOf_eq_nil {key : String} {members : List (String × Json)}
    (fresh : key ∉ members.map Prod.fst) : valuesOf key members = [] := by
  have other : members.filter (fun member => member.1 = key) = [] := by
    rw [List.filter_eq_nil_iff]
    intro member inside same
    rw [← of_decide_eq_true same] at fresh
    exact fresh (List.mem_map_of_mem inside)
  rw [valuesOf, other]
  rfl

theorem valuesOf_cons_of_ne {key other : String} (apart : other ≠ key) (value : Json)
    (members : List (String × Json)) :
    valuesOf key ((other, value) :: members) = valuesOf key members := by
  simp [valuesOf, apart]

theorem valuesOf_cons_self {key : String} (value : Json) {members : List (String × Json)}
    (fresh : key ∉ members.map Prod.fst) : valuesOf key ((key, value) :: members) = [value] := by
  have alone := valuesOf_eq_nil fresh
  rw [valuesOf] at alone
  simp [valuesOf, List.map_eq_nil_iff.1 alone]

theorem memberSlot_of_mem {members : List (String × Json)}
    (distinct : (members.map Prod.fst).Nodup) {member : String × Json} (inside : member ∈ members) :
    memberSlot members member.1 = some (.given member.2) := by
  have found : valuesOf member.1 members = [member.2] := by
    induction members with
    | nil => cases inside
    | cons first rest step =>
      have parts := List.nodup_cons.1 distinct
      rcases List.mem_cons.1 inside with rfl | later
      · exact valuesOf_cons_self member.2 parts.1
      · have apart : first.1 ≠ member.1 := by
          intro same
          exact parts.1 (same ▸ List.mem_map_of_mem later)
        exact (valuesOf_cons_of_ne apart first.2 rest).trans (step parts.2 later)
  rw [memberSlot, found]

/-- The slots of a record that names every field once are its values in
order. -/
theorem slots_object {names : List String} {members : List (String × Json)}
    (named : members.map Prod.fst = names) (distinct : names.Nodup) :
    slots names (.object members) = some (members.map fun member => .given member.2) := by
  have each : forall part : List (String × Json), part ⊆ members ->
      (part.map Prod.fst).mapM (memberSlot members) =
        some (part.map fun member => .given member.2) := by
    intro part within
    induction part with
    | nil => rfl
    | cons first rest step =>
      have parts := List.cons_subset.1 within
      rw [List.map_cons, List.mapM_cons, memberSlot_of_mem (named ▸ distinct) parts.1,
        step parts.2]
      rfl
  rw [← named]
  exact each members (List.Subset.refl members)

namespace Slot

variable {Content : Type}

@[simp] theorem required_given (content : Json -> Option Content) (value : Json) :
    (given value).required content = content value := by rw [required]

@[simp] theorem nullable_given (content : Json -> Option Content) (value : Json) :
    (given value).nullable content = value.asNullable content := by rw [nullable]

@[simp] theorem defaulting_given (default : Content) (content : Json -> Option Content)
    (value : Json) : (given value).defaulting default content = content value := by
  rw [defaulting]

end Slot

/-- A tag in front of the fields is found and taken away. -/
theorem variant?_object (names : List String) {key : String} {tag : Json}
    {members : List (String × Json)} (whole : (Json.object ((key, tag) :: members)).intact = true)
    (named : members.map Prod.fst = names) (fresh : key ∉ names) :
    variant? key (.object ((key, tag) :: members)) = some ⟨tag, .object members⟩ := by
  rw [← named] at fresh
  have others : members.filter (fun member => member.1 ≠ key) = members := by
    rw [List.filter_eq_self]
    intro member inside
    rw [decide_eq_true_eq]
    rintro same
    exact fresh (same ▸ List.mem_map_of_mem inside)
  have first : ((key, tag) :: members).filter (fun member => member.1 ≠ key) = members := by
    rw [List.filter_cons_of_neg (by simp), others]
  rw [variant?, if_pos whole, valuesOf_cons_self tag fresh]
  exact congrArg (fun fields => some (Variant.mk tag (.object fields))) first

/-! ## Values -/

@[simp] theorem asFloat_ofFloat (value : Float) : (ofFloat value).asFloat = some value := rfl

/-- A whole number is read back if it fits a word. -/
theorem asNatural_ofNat {value : Nat} (fits : value < UInt64.size) :
    (ofNat value).asNatural = some value := by
  rw [ofNat, asNatural, if_pos ⟨Int.natCast_nonneg value, Int.ofNat_lt.2 fits⟩, Int.toNat_natCast]

@[simp] theorem asInt64_toInt (value : Int64) :
    (Json.number (.integer value.toInt)).asInt64 = some value := by
  rw [asInt64, if_pos ⟨value.minValue_le_toInt, value.toInt_le⟩, Int64.ofInt_toInt]

/-- The items of a list are read back if each of them is. -/
theorem asListOf_map {Item : Type} {decode : Json -> Option Item} {encode : Item -> Json}
    {items : List Item} (back : forall item, item ∈ items -> decode (encode item) = some item) :
    asListOf decode (.array (items.map encode)) = some items := by
  change (items.map encode).mapM decode = some items
  induction items with
  | nil => rfl
  | cons first rest step =>
    rw [List.map_cons, List.mapM_cons, back first List.mem_cons_self,
      step fun item inside => back item (List.mem_cons_of_mem _ inside)]
    rfl

/-- A value that may be missing is read back unless its own form is `null`. -/
theorem asNullable_ofOption {Content : Type} {decode : Json -> Option Content}
    {encode : Content -> Json} (back : forall content, decode (encode content) = some content)
    (present : forall content, encode content ≠ .null) (value : Option Content) :
    asNullable decode (ofOption encode value) = some value := by
  cases value with
  | none => rfl
  | some content =>
    rw [ofOption, asNullable]
    · rw [back]
      rfl
    · exact present content

/-! ## Sizes -/

theorem sized_ofOption {Content : Type} {encode : Content -> Json}
    (each : forall content, Sized (encode content)) (value : Option Content) :
    Sized (ofOption encode value) := by
  cases value with
  | none => trivial
  | some content => exact each content

theorem sizedItems_map {Item : Type} {encode : Item -> Json} {items : List Item}
    (each : forall item, item ∈ items -> Sized (encode item)) : SizedItems (items.map encode) := by
  induction items with
  | nil => trivial
  | cons first rest step =>
    exact ⟨each first List.mem_cons_self,
      step fun item inside => each item (List.mem_cons_of_mem _ inside)⟩

theorem sized_ofNat {value : Nat} (fits : value < UInt64.size) : Sized (ofNat value) := by
  refine ⟨Int.le_trans ?_ (Int.natCast_nonneg value), Int.ofNat_lt.2 fits⟩
  decide

end SpriteStage.Json
