import SpriteStage.Proofs.Block.Values

namespace SpriteStage

/-!
# What the text of a drop asks for

The text of a drop is read in stages: the record, the identifier that it
names, and then one of two requests.  Here the outcome is told without the
stages.  A text asks for a request just when it is the record of that request,
and it is refused just when it asks for none.
-/

namespace Drop

/-- Whether a text is a record, which names a block by an identifier or names
none.  A name that is no identifier makes it neither. -/
structure Records (text : String) (payload : DropRecord) (named : Option BlockId) : Prop where
  read : (Json.ofText? text).bind DropRecord.ofJson? = some payload
  named : payload.id.map BlockId.ofText? = named.map some

/-- Whether a text asks for a request.  A new block has the identifier that is
named, or else a fresh one.  Its kind is one that the palette offers, where each
parameter holds what the record gave it last. -/
inductive Asks (fresh : BlockId) (text : String) : Drop -> Prop
  | move {payload : DropRecord} {id : BlockId} (records : Records text payload (some id))
      (moving : payload.moving = true) : Asks fresh text (.move id)
  | create {payload : DropRecord} {named : Option BlockId} {kind made : Kind}
      (records : Records text payload named) (placing : payload.moving = false)
      (offered : Kind.Offers (payload.family.getD "") (payload.action.getD "") kind)
      (becomes : kind.Becomes payload.params made) :
      Asks fresh text (.create (Block.unplaced (named.getD fresh) made))

variable {fresh : BlockId} {text : String} {payload : DropRecord} {named : Option BlockId}
  {request : Drop}

theorem ofText_of_records (records : Records text payload named) :
    ofText fresh text = payload.request fresh named := by
  have sameName := records.named
  rw [ofText, records.read]
  dsimp only
  cases name : payload.id with
  | none =>
    rw [name, Option.map_none, eq_comm, Option.map_eq_none_iff] at sameName
    rw [sameName]
  | some raw =>
    rw [name, Option.map_some, eq_comm, Option.map_eq_some_iff] at sameName
    rcases sameName with ⟨id, rfl, readName⟩
    dsimp only
    rw [← readName]

theorem exists_records (accepted : ofText fresh text = .ok request) :
    Exists fun payload => Exists fun named => Records text payload named := by
  unfold ofText at accepted
  cases read : (Json.ofText? text).bind DropRecord.ofJson? with
  | none =>
    rw [read] at accepted
    cases accepted
  | some payload =>
    rw [read] at accepted
    dsimp only at accepted
    cases name : payload.id with
    | none => exact ⟨payload, none, read, by rw [name]; rfl⟩
    | some raw =>
      rw [name] at accepted
      dsimp only at accepted
      cases readName : BlockId.ofText? raw with
      | none =>
        rw [readName] at accepted
        cases accepted
      | some id => exact ⟨payload, some id, read, by rw [name, Option.map_some, readName]; rfl⟩

/-- A text is read as a request just when it asks for it. -/
theorem ofText_eq_ok_iff : ofText fresh text = .ok request <-> Asks fresh text request := by
  constructor
  · intro accepted
    rcases exists_records accepted with ⟨payload, named, records⟩
    rw [ofText_of_records records] at accepted
    unfold DropRecord.request at accepted
    cases moving : payload.moving with
    | true =>
      rw [moving, if_pos rfl] at accepted
      cases named with
      | none => cases accepted
      | some id =>
        cases accepted
        exact .move records moving
    | false =>
      rw [moving, if_neg Bool.false_ne_true] at accepted
      dsimp only at accepted
      cases offered : Kind.ofPalette? (payload.family.getD "") (payload.action.getD "") with
      | none =>
        rw [offered] at accepted
        cases accepted
      | some kind =>
        rw [offered] at accepted
        cases accepted
        exact .create records moving (Kind.ofPalette?_eq_some_iff.1 offered)
          (DropRecord.becomes_applyParams payload.params kind)
  · intro asks
    cases asks with
    | move records moving =>
      rw [ofText_of_records records]
      exact if_pos moving
    | create records placing offered becomes =>
      rw [ofText_of_records records]
      unfold DropRecord.request
      rw [placing, if_neg Bool.false_ne_true]
      dsimp only
      rw [Kind.ofPalette?_eq_some_iff.2 offered]
      dsimp only
      rw [becomes.unique (DropRecord.becomes_applyParams _ _)]

/-- A text asks for one request at most. -/
theorem Asks.unique {other : Drop} (one : Asks fresh text request) (two : Asks fresh text other) :
    request = other :=
  Except.ok.inj ((ofText_eq_ok_iff.2 one).symm.trans (ofText_eq_ok_iff.2 two))

/-- A text that is refused asks for nothing. -/
theorem not_asks_of_error {refusal : DropRefusal} (refused : ofText fresh text = .error refusal) :
    ¬ Asks fresh text request := by
  intro asks
  rw [ofText_eq_ok_iff.2 asks] at refused
  cases refused

end Drop

end SpriteStage
