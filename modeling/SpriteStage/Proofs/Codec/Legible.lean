import SpriteStage.Proofs.Codec.Stage

namespace SpriteStage

/-!
# What comes back is legible

If a value comes back from its text, every double in it was read back from its
digits.  A decoder gives a double only where it finds a number, and in the
place of a double a text holds no number but the one its digits stand for.
-/

namespace Json

/-- Whether every double in a value is read back from its digits. -/
def Clear (value : Json) : Prop := forall double, double ∈ value.reals -> ReadsBack double

theorem clear_object {members : List (String × Json)}
    (each : forall member, member ∈ members -> Clear member.2) : Clear (.object members) := by
  intro double inside
  rw [reals] at inside
  induction members with
  | nil => cases inside
  | cons first rest step =>
    rw [realsOfMembers] at inside
    rcases List.mem_append.1 inside with own | later
    · exact each first List.mem_cons_self double own
    · exact step (fun member member' => each member (List.mem_cons_of_mem _ member')) later

theorem clear_array {items : List Json} (each : forall item, item ∈ items -> Clear item) :
    Clear (.array items) := by
  intro double inside
  rw [reals] at inside
  induction items with
  | nil => cases inside
  | cons first rest step =>
    rw [realsOfItems] at inside
    rcases List.mem_append.1 inside with own | later
    · exact each first List.mem_cons_self double own
    · exact step (fun item member => each item (List.mem_cons_of_mem _ member)) later

@[simp] theorem clear_null : Clear .null := fun _ inside => nomatch inside

@[simp] theorem clear_string (value : String) : Clear (.string value) :=
  fun _ inside => nomatch inside

@[simp] theorem clear_bool (value : Bool) : Clear (.bool value) := fun _ inside => nomatch inside

@[simp] theorem clear_integer (value : Int) : Clear (.number (.integer value)) :=
  fun _ inside => nomatch inside

/-- Whether a content that comes back from the text of its form is clear. -/
def Legible {Content : Type} (encode : Content -> Json) (decode : Json -> Option Content)
    (content : Content) : Prop :=
  forall room, decode ((encode content).reread room) = some content -> Clear (encode content)

/-! ## Texts that were read -/

theorem rereadItems_eq_map (room : Nat) (items : List Json) :
    rereadItems room items = items.map (reread room) := by
  induction items with
  | nil => rfl
  | cons first rest step => rw [rereadItems, step, List.map_cons]

theorem rereadMembers_eq_map (room : Nat) (members : List (String × Json)) :
    rereadMembers room members = members.map fun member => (member.1, reread room member.2) := by
  induction members with
  | nil => rfl
  | cons first rest step => rw [rereadMembers, step, List.map_cons]

/-- The slots of a record that is read from its text. -/
theorem slots_reread {names : List String} {members : List (String × Json)} {room : Nat}
    {found : List Slot} (split : ((object members).reread room).slots names = some found)
    (named : members.map Prod.fst = names) (distinct : names.Nodup) :
    Exists fun inner => found = members.map fun member => .given (member.2.reread inner) := by
  rw [reread] at split
  split at split
  · cases split
  · rw [slots_object _ distinct, rereadMembers_eq_map, List.map_map] at split
    · exact ⟨room - 1, (Option.some.inj split).symm⟩
    · rw [rereadMembers_eq_map, List.map_map]
      exact named

/-- The parts of a variant that is read from its text. -/
theorem variant_reread {key tag : String} (names : List String) {members : List (String × Json)}
    {room : Nat} {variant : Variant}
    (split : ((object ((key, .string tag) :: members)).reread room).variant? key = some variant)
    (named : members.map Prod.fst = names) (fresh : key ∉ names) :
    Exists fun inner => variant = ⟨.string tag, (object members).reread inner⟩ := by
  have form (inner : Nat) : (object members).reread (inner + 1) =
      .object (rereadMembers inner members) := by
    rw [reread, if_neg (Nat.succ_ne_zero inner), Nat.add_sub_cancel]
  rw [reread] at split
  split at split
  · cases split
  · by_cases whole : (object (rereadMembers (room - 1) ((key, .string tag) :: members))).intact = true
    · have same : (rereadMembers (room - 1) members).map Prod.fst = names := by
        rw [rereadMembers_eq_map, List.map_map]
        exact named
      have found := variant?_object names whole same fresh
      rw [← form] at found
      exact ⟨_, Option.some.inj (split.symm.trans found)⟩
    · rw [variant?, if_neg whole] at split
      cases split

theorem legible_ofFloat (value : Float) : Legible ofFloat asFloat value := by
  intro room back double inside
  cases List.mem_singleton.1 inside
  have form : (ofFloat value).reread room =
      if value.isFinite then rereadDouble value else .null := rfl
  rw [form] at back
  split at back
  · rename_i finite
    rcases readNumeral_data finite with ⟨numeral, read, marked⟩
    rw [rereadDouble, read, Option.bind_some] at back
    cases meant : numberOf numeral with
    | none =>
      rw [meant] at back
      cases back
    | some amount =>
      rw [meant] at back
      have same : amount.toFloat = value := Option.some.inj back
      refine ⟨finite, numeral, read, ?_⟩
      rw [meant, real_of_numberOf marked meant, same]
  · cases back

variable {Content : Type} {encode : Content -> Json} {decode : Json -> Option Content}

theorem legible_ofOption (each : forall content, Legible encode decode content)
    (value : Option Content) : Legible (ofOption encode) (asNullable decode) value := by
  intro room back
  cases value with
  | none => exact clear_null
  | some content =>
    have found : decode ((encode content).reread room) = some content := by
      rw [ofOption, asNullable.eq_def] at back
      split at back
      · cases back
      · rcases Option.map_eq_some_iff.1 back with ⟨other, found, same⟩
        rw [found, Option.some.inj same]
    exact each content room found

/-- If a list is made of its items again, each item was made of itself. -/
theorem mapM_map_eq_some {source : Content -> Json} {items : List Content}
    (made : (items.map source).mapM decode = some items) :
    forall item, item ∈ items -> decode (source item) = some item := by
  induction items with
  | nil => exact fun _ inside => nomatch inside
  | cons first rest step =>
    rw [List.map_cons, List.mapM_cons] at made
    rcases Option.bind_eq_some_iff.1 made with ⟨own, ownMade, made⟩
    rcases Option.bind_eq_some_iff.1 made with ⟨others, othersMade, made⟩
    cases made
    intro item inside
    rcases List.mem_cons.1 inside with rfl | later
    · exact ownMade
    · exact step othersMade item later

/-- A list that comes back is clear if its items are when they come back. -/
theorem clear_of_asListOf {items : List Content}
    (each : forall item, item ∈ items -> Legible encode decode item) {room : Nat}
    (back : asListOf decode ((array (items.map encode)).reread room) = some items) :
    Clear (array (items.map encode)) := by
  rw [reread] at back
  split at back
  · cases back
  · rw [rereadItems_eq_map, List.map_map] at back
    have made := mapM_map_eq_some back
    apply clear_array
    intro item inside
    rcases List.mem_map.1 inside with ⟨content, member, rfl⟩
    exact each content member (room - 1) (made content member)

end Json

open Json (Clear Legible reread slots_reread variant_reread legible_ofFloat legible_ofOption
  clear_object)

/-! ## Kinds -/

theorem Motion.clear_of_fields {command : Motion} {room : Nat} {variant : Json.Variant}
    {action : String} (split : (command.toJson.reread room).variant? "action" = some variant)
    (named : Kind.actionOf? false actions variant.tag = some action)
    (back : ofFields? action variant.fields = some command) : Clear command.toJson := by
  cases command with
  | move steps =>
    rcases variant_reread ["steps"] split rfl (by decide) with ⟨outer, rfl⟩
    cases named
    rcases Option.bind_eq_some_iff.1 back with ⟨found, split, back⟩
    rcases slots_reread split rfl (by decide) with ⟨inner, rfl⟩
    rcases Option.bind_eq_some_iff.1 back with ⟨steps, read, back⟩
    cases back
    have first := legible_ofFloat steps inner read
    apply clear_object
    simp [first]
  | turn degrees =>
    rcases variant_reread ["degrees"] split rfl (by decide) with ⟨outer, rfl⟩
    cases named
    rcases Option.bind_eq_some_iff.1 back with ⟨found, split, back⟩
    rcases slots_reread split rfl (by decide) with ⟨inner, rfl⟩
    rcases Option.bind_eq_some_iff.1 back with ⟨degrees, read, back⟩
    cases back
    have first := legible_ofFloat degrees inner read
    apply clear_object
    simp [first]
  | goTo x y =>
    rcases variant_reread ["x", "y"] split rfl (by decide) with ⟨outer, rfl⟩
    cases named
    rcases Option.bind_eq_some_iff.1 back with ⟨found, split, back⟩
    rcases slots_reread split rfl (by decide) with ⟨inner, rfl⟩
    rcases Option.bind_eq_some_iff.1 back with ⟨x, readX, back⟩
    rcases Option.bind_eq_some_iff.1 back with ⟨y, readY, back⟩
    cases back
    have first := legible_ofFloat x inner readX
    have second := legible_ofFloat y inner readY
    apply clear_object
    simp [first, second]

theorem Look.clear_of_fields {command : Look} {room : Nat} {variant : Json.Variant}
    {action : String} (split : (command.toJson.reread room).variant? "action" = some variant)
    (named : Kind.actionOf? false actions variant.tag = some action)
    (back : ofFields? action variant.fields = some command) : Clear command.toJson := by
  cases command with
  | say message =>
    apply clear_object
    simp
  | sayFor message seconds =>
    rcases variant_reread ["message", "seconds"] split rfl (by decide) with ⟨outer, rfl⟩
    cases named
    rcases Option.bind_eq_some_iff.1 back with ⟨found, split, back⟩
    rcases slots_reread split rfl (by decide) with ⟨inner, rfl⟩
    rcases Option.bind_eq_some_iff.1 back with ⟨message, _, back⟩
    rcases Option.bind_eq_some_iff.1 back with ⟨seconds, read, back⟩
    cases back
    have lasting := legible_ofFloat seconds inner read
    apply clear_object
    simp [lasting]

namespace Kind

/-- A kind that is read from its text is read from its family and the text of
its command. -/
theorem parts_reread {family : String} {block : Json} {room : Nat} {kind : Kind}
    (back : ofJson? ((Json.object [("family", .string family), ("block", block)]).reread room) =
      some kind) :
    Exists fun inner => ofParts? false (.string family) (block.reread inner) = some kind := by
  rw [reread] at back
  split at back
  · cases back
  · exact ⟨room - 1, back⟩

theorem clear_of_block {family : String} {block : Json} (inside : Clear block) :
    Clear (.object [("family", .string family), ("block", block)]) := by
  apply clear_object
  simp [inside]

theorem legible (kind : Kind) : Legible toJson ofJson? kind := by
  intro room back
  cases kind with
  | motion command =>
    rcases parts_reread back with ⟨inner, back⟩
    rcases Option.bind_eq_some_iff.1 back with ⟨variant, split, back⟩
    rcases Option.bind_eq_some_iff.1 back with ⟨action, named, back⟩
    rcases Option.bind_eq_some_iff.1 back with ⟨found, read, back⟩
    cases back
    exact clear_of_block (Motion.clear_of_fields split named read)
  | control command =>
    apply clear_of_block
    cases command
    apply clear_object
    simp
  | look command =>
    rcases parts_reread back with ⟨inner, back⟩
    rcases Option.bind_eq_some_iff.1 back with ⟨variant, split, back⟩
    rcases Option.bind_eq_some_iff.1 back with ⟨action, named, back⟩
    rcases Option.bind_eq_some_iff.1 back with ⟨found, read, back⟩
    cases back
    exact clear_of_block (Look.clear_of_fields split named read)

end Kind

/-! ## Programs -/

/-- A tree that comes back is clear, for each number of levels that the
reader may go down. -/
theorem Forest.legible (forest : Forest) : forall node, node ∈ forest ->
    forall levels : Nat, Legible Block.toJson (Block.ofLevels? levels) node := by
  induction forest using Forest.induction with
  | nil => exact fun _ inside => nomatch inside
  | cons id kind actor parent children rest below later =>
    intro node inside levels room back
    rcases List.mem_cons.1 inside with rfl | others
    · cases levels with
      | zero => cases back
      | succ levels =>
        rw [Block.toJson] at back
        rcases Option.bind_eq_some_iff.1 back with ⟨found, split, back⟩
        rcases slots_reread split rfl (by decide) with ⟨inner, rfl⟩
        rcases Option.bind_eq_some_iff.1 back with ⟨_, _, back⟩
        rcases Option.bind_eq_some_iff.1 back with ⟨_, readKind, back⟩
        rcases Option.bind_eq_some_iff.1 back with ⟨_, _, back⟩
        rcases Option.bind_eq_some_iff.1 back with ⟨_, _, back⟩
        rcases Option.bind_eq_some_iff.1 back with ⟨_, readChildren, back⟩
        cases back
        have own := kind.legible inner readKind
        have parts : Clear (.array (Forest.toItems children)) := by
          rw [Forest.toItems_eq_map] at readChildren ⊢
          exact Json.clear_of_asListOf (fun node member => below node member levels) readChildren
        have above : Clear (Json.ofOption BlockId.toJson parent) := by
          cases parent
          · exact Json.clear_null
          · exact Json.clear_string _
        rw [Block.toJson]
        apply clear_object
        simp [own, parts, above, BlockId.toJson, ActorId.toJson]
    · exact later node others levels room back

theorem Block.legible (node : Block) : Legible toJson ofJson? node := by
  intro room back
  exact Forest.legible [node] node List.mem_cons_self _ room back

theorem OwnedProgram.legible (program : OwnedProgram) : Legible toJson ofJson? program := by
  intro room back
  rcases Option.bind_eq_some_iff.1 back with ⟨found, split, back⟩
  rcases slots_reread split rfl (by decide) with ⟨inner, rfl⟩
  rcases Option.bind_eq_some_iff.1 back with ⟨actor, _, back⟩
  rcases Option.bind_eq_some_iff.1 back with ⟨blocks, read, back⟩
  cases back
  have trees : Clear (.array (Forest.toItems blocks)) := by
    rw [Forest.toItems_eq_map] at read ⊢
    exact Json.clear_of_asListOf (fun node _ => node.legible) read
  apply clear_object
  simp [trees, ActorId.toJson]

/-! ## Actors and snapshots -/

theorem Pose.legible (pose : Pose) : Legible toJson ofJson? pose := by
  intro room back
  rcases Option.bind_eq_some_iff.1 back with ⟨found, split, back⟩
  rcases slots_reread split rfl (by decide) with ⟨inner, rfl⟩
  rcases Option.bind_eq_some_iff.1 back with ⟨x, readX, back⟩
  rcases Option.bind_eq_some_iff.1 back with ⟨y, readY, back⟩
  rcases Option.bind_eq_some_iff.1 back with ⟨heading, readHeading, back⟩
  cases back
  have first := legible_ofFloat x inner readX
  have second := legible_ofFloat y inner readY
  have third := legible_ofFloat heading inner readHeading
  apply clear_object
  simp [first, second, third]

theorem Speech.legible (speech : Speech) : Legible toJson ofJson? speech := by
  intro room back
  rcases Option.bind_eq_some_iff.1 back with ⟨found, split, back⟩
  rcases slots_reread split rfl (by decide) with ⟨inner, rfl⟩
  rcases Option.bind_eq_some_iff.1 back with ⟨message, _, back⟩
  rcases Option.bind_eq_some_iff.1 back with ⟨seconds, readSeconds, back⟩
  rcases Option.bind_eq_some_iff.1 back with ⟨spokenAt, _, back⟩
  cases back
  have lasting := legible_ofOption legible_ofFloat seconds inner readSeconds
  apply clear_object
  simp [lasting, Instant.toJson]

theorem Actor.legible (actor : Actor) : Legible toJson ofJson? actor := by
  intro room back
  rcases Option.bind_eq_some_iff.1 back with ⟨found, split, back⟩
  rcases slots_reread split rfl (by decide) with ⟨inner, rfl⟩
  rcases Option.bind_eq_some_iff.1 back with ⟨id, _, back⟩
  rcases Option.bind_eq_some_iff.1 back with ⟨name, _, back⟩
  rcases Option.bind_eq_some_iff.1 back with ⟨pose, readPose, back⟩
  rcases Option.bind_eq_some_iff.1 back with ⟨baseline, readBaseline, back⟩
  rcases Option.bind_eq_some_iff.1 back with ⟨color, _, back⟩
  rcases Option.bind_eq_some_iff.1 back with ⟨speech, readSpeech, back⟩
  cases back
  have present := pose.legible inner readPose
  have former := baseline.legible inner readBaseline
  have said := legible_ofOption Speech.legible speech inner readSpeech
  apply clear_object
  simp [present, former, said, ActorId.toJson]

theorem Snapshot.legible (snapshot : Snapshot) : Legible toJson ofJson? snapshot := by
  intro room back
  rcases Option.bind_eq_some_iff.1 back with ⟨found, split, back⟩
  rcases slots_reread split rfl (by decide) with ⟨inner, rfl⟩
  rcases Option.bind_eq_some_iff.1 back with ⟨running, _, back⟩
  rcases Option.bind_eq_some_iff.1 back with ⟨actors, readActors, back⟩
  rcases Option.bind_eq_some_iff.1 back with ⟨programs, readPrograms, back⟩
  rcases Option.bind_eq_some_iff.1 back with ⟨blockCount, _, back⟩
  cases back
  have cast := Json.clear_of_asListOf (fun actor _ => actor.legible) readActors
  have owned := Json.clear_of_asListOf (fun program _ => program.legible) readPrograms
  apply clear_object
  simp [cast, owned, Json.ofNat]

end SpriteStage
