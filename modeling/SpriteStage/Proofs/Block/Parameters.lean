import SpriteStage.Proofs.Drop

namespace SpriteStage

/-!
# Parameters in range and in any order

A parameter of a kind holds what the last call with its name gave it.  So calls
with different names commute, and calls with names that the kind does not have
make no difference.  A setting that is a number is always finite, and one in
seconds is positive, whatever was handed over.

The same is true of a kind that a drop asks for: it is the palette's with the
parameters that it has, in whichever order they are written.
-/

/-! ## Numbers in range -/

/-- Whatever is handed over, it is taken in range. -/
theorem Setting.inRange_taken (name : String) (value : Parameter) :
    (taken name value).InRange name := by
  unfold taken
  split
  · trivial
  · trivial
  · cases given : value.meant?.filter fun number => 0.0 < number with
    | none => exact ⟨by decide, fun _ => by decide⟩
    | some number =>
      rw [Option.filter_eq_some_iff] at given
      exact ⟨Parameter.isFinite_of_meant? given.1, fun _ => of_decide_eq_true given.2⟩
  · rename_i notSeconds
    refine ⟨?_, fun same => absurd same notSeconds⟩
    cases meant : value.meant? with
    | none => decide
    | some number => exact Parameter.isFinite_of_meant? meant

/-- The palette offers kinds with settings in range. -/
theorem Kind.inRange_of_offers {family action : String} {kind : Kind}
    (offered : Offers family action kind) : kind.InRange := by
  have listed := ofPalette?_eq_some_iff.2 offered
  unfold ofPalette? at listed
  split at listed <;> cases listed <;> simp [InRange, settings, Setting.InRange] <;> decide

/-! ## Series of calls -/

namespace DropRecord

variable {kind : Kind} {name : String} (calls : List (String × Parameter))

theorem names_applyParams (kind : Kind) : (applyParams kind calls).names = kind.names := by
  rw [Kind.names, (becomes_applyParams calls kind).settings, List.map_map]
  rfl

theorem applyParams_append (second : List (String × Parameter)) : forall kind : Kind,
    applyParams kind (calls ++ second) = applyParams (applyParams kind calls) second := by
  induction calls with
  | nil => exact fun _ => rfl
  | cons call rest step =>
    intro kind
    rw [List.cons_append, applyParams, applyParams]
    split
    · exact step _
    · exact step _

/-- Only the last call with each name of the kind counts. -/
theorem applyParams_congr {calls others : List (String × Parameter)}
    (same : forall name, name ∈ kind.names ->
      Table.lookup name calls.reverse = Table.lookup name others.reverse) :
    applyParams kind calls = applyParams kind others := by
  apply (becomes_applyParams calls kind).unique
  refine ⟨(becomes_applyParams others kind).label, ?_⟩
  rw [(becomes_applyParams others kind).settings]
  apply List.map_congr_left
  intro row member
  rw [Setting.after, Setting.after, same row.1 (List.mem_map_of_mem member)]

def recognised (kind : Kind) (calls : List (String × Parameter)) : List (String × Parameter) :=
  calls.filter fun call => call.1 ∈ kind.names

theorem lookup_recognised (named : name ∈ kind.names) :
    Table.lookup name (recognised kind calls).reverse = Table.lookup name calls.reverse := by
  rw [recognised, ← List.filter_reverse,
    Table.lookup_filter (fun name => decide (name ∈ kind.names)) name calls.reverse,
    if_pos (decide_eq_true named)]

/-- Calls with other names make no difference. -/
theorem applyParams_recognised (kind : Kind) :
    applyParams kind (recognised kind calls) = applyParams kind calls :=
  applyParams_congr fun _ named => lookup_recognised calls named

/-- Calls with different names can be made in any order. -/
theorem applyParams_perm {calls others : List (String × Parameter)}
    (distinct : ((recognised kind calls).map Prod.fst).Nodup)
    (same : (recognised kind calls).Perm (recognised kind others)) :
    applyParams kind calls = applyParams kind others := by
  rw [← applyParams_recognised calls, ← applyParams_recognised others]
  apply applyParams_congr
  intro name _
  apply Table.lookup_perm
  · exact ((List.reverse_perm _).map Prod.fst).nodup_iff.2 distinct
  · exact (List.reverse_perm _).trans (same.trans (List.reverse_perm _).symm)

/-- Two calls with different names commute. -/
theorem applyParams_swap {one two : String × Parameter} (different : one.1 ≠ two.1)
    (later : List (String × Parameter)) :
    applyParams kind (calls ++ one :: two :: later) =
      applyParams kind (calls ++ two :: one :: later) := by
  have each : forall start : Kind, applyParams start [one, two] = applyParams start [two, one] := by
    intro start
    apply applyParams_perm
    · apply List.Nodup.sublist ((List.filter_sublist).map Prod.fst)
      simpa using different
    · exact (List.Perm.swap two one []).filter _
  have split : forall first second : String × Parameter,
      applyParams kind (calls ++ first :: second :: later) =
        applyParams (applyParams (applyParams kind calls) [first, second]) later := by
    intro first second
    rw [← applyParams_append, ← applyParams_append]
    rfl
  rw [split, split, each]

/-- What is in range stays in range. -/
theorem inRange_applyParams (inRange : kind.InRange) : (applyParams kind calls).InRange := by
  intro row member
  rw [(becomes_applyParams calls kind).settings] at member
  rcases List.mem_map.1 member with ⟨old, oldMember, rfl⟩
  dsimp only [Setting.after]
  split
  · exact Setting.inRange_taken old.1 _
  · exact inRange old oldMember

end DropRecord

open DropRecord

/-- What becomes of a kind in series of calls, whatever they hand over. -/
structure Kind.Settles (kind : Kind) : Prop where
  label : forall calls, (applyParams kind calls).label = kind.label
  refuses : forall calls name, name ∉ kind.names -> forall value,
    (applyParams kind calls).set name value = .error (.noParameter kind.label name) ∧
      applyParams kind (calls ++ [(name, value)]) = applyParams kind calls
  accepts : forall calls name, name ∈ kind.names -> forall value,
    (applyParams kind calls).set name value = .ok (applyParams kind (calls ++ [(name, value)]))
  inRange : forall calls, (applyParams kind calls).InRange
  settings : forall calls, (applyParams kind calls).settings =
    kind.settings.map fun row => (row.1, row.2.after calls row.1)
  commute : forall calls one two later, one.1 ≠ two.1 ->
    applyParams kind (calls ++ one :: two :: later) =
      applyParams kind (calls ++ two :: one :: later)

theorem Kind.settles {kind : Kind} (inRange : kind.InRange) : kind.Settles where
  label := fun calls => (becomes_applyParams calls kind).label
  refuses := by
    intro calls name unnamed value
    have refused : (applyParams kind calls).set name value =
        .error (.noParameter kind.label name) := by
      rw [← names_applyParams calls] at unnamed
      rw [set_of_notMem unnamed, (becomes_applyParams calls kind).label]
    refine ⟨refused, ?_⟩
    rw [applyParams_append, applyParams, refused]
    rfl
  accepts := by
    intro calls name named value
    rw [← names_applyParams calls] at named
    rcases set_of_mem named value with ⟨changed, accepted, _⟩
    rw [applyParams_append, applyParams, accepted]
    rfl
  inRange := fun calls => inRange_applyParams calls inRange
  settings := fun calls => (becomes_applyParams calls kind).settings
  commute := fun calls _ _ later different => applyParams_swap calls different later

/-- What a text says of the new block that it asks for.  The kind is one of the
palette's with the parameters that it has, and every text says the same that
lists these in another order, or others beside them. -/
structure Drop.Describes (fresh : BlockId) (text : String) (payload : DropRecord)
    (named : Option BlockId) (kind : Kind) (node : Block) : Prop where
  records : Records text payload named
  placing : payload.moving = false
  offered : Kind.Offers (payload.family.getD "") (payload.action.getD "") kind
  made : node = Block.unplaced (named.getD fresh)
    (applyParams kind (recognised kind payload.params))
  becomes : kind.Becomes payload.params node.kind
  inRange : node.kind.InRange
  orderless : forall (other : String) (record : DropRecord), Records other record named ->
    record.moving = false -> record.family = payload.family -> record.action = payload.action ->
      ((recognised kind payload.params).map Prod.fst).Nodup ->
        (recognised kind payload.params).Perm (recognised kind record.params) ->
          Drop.ofText fresh other = .ok (.create node)

theorem Drop.Asks.describes {fresh : BlockId} {text : String} {node : Block}
    (asks : Drop.Asks fresh text (.create node)) :
    Exists fun payload => Exists fun named => Exists fun kind =>
      Drop.Describes fresh text payload named kind node := by
  cases asks with
  | @create payload named kind made records placing offered becomes =>
    have set : made = applyParams kind payload.params :=
      becomes.unique (becomes_applyParams payload.params kind)
    refine ⟨payload, named, kind, records, placing, offered, ?_, becomes, ?_, ?_⟩
    · rw [applyParams_recognised, set]
    · rw [set]
      exact inRange_applyParams payload.params (Kind.inRange_of_offers offered)
    · intro other record otherRecords otherPlacing sameFamily sameAction distinct same
      rw [← sameFamily, ← sameAction] at offered
      rw [set, applyParams_perm distinct same]
      exact Drop.ofText_eq_ok_iff.2
        (.create otherRecords otherPlacing offered (becomes_applyParams record.params kind))

/-- In any series of calls, a kind of the palette stays what it is, its
settings stay in range, and each is that of the last call with its name.  A
drop that asks for a new block asks for such a kind.

What a value gives is told by the value alone: a finite number, or a text that
spells one, stands for that number, and where there is none, or none that the
parameter admits, a fixed value stands in.  The order of the parameters in a text
is free as long as none that the kind has is given twice. -/
theorem Kind.parameters_hold_last_values :
    (forall (family action : String) (kind : Kind),
      (Kind.ofPalette? family action = some kind <-> Kind.Offers family action kind) ∧
        (Kind.ofPalette? family action = some kind -> kind.Settles)) ∧
      forall (fresh : BlockId) (text : String) (node : Block),
        Drop.ofText fresh text = .ok (.create node) ->
          Exists fun payload => Exists fun named => Exists fun kind =>
            Drop.Describes fresh text payload named kind node := by
  refine ⟨?_, ?_⟩
  · intro family action kind
    refine ⟨ofPalette?_eq_some_iff, fun offered => ?_⟩
    exact Kind.settles (Kind.inRange_of_offers (ofPalette?_eq_some_iff.1 offered))
  · intro fresh text node read
    exact (Drop.ofText_eq_ok_iff.1 read).describes

section Sample

/-- Values of all sorts.  The last number of seconds is kept, the ones before it
are none, and one value has no parameter. -/
def sampleCalls : List (String × Parameter) :=
  [("steps", .number 3.0), ("message", .text "first"), ("seconds", .number (-1.0)),
    ("message", .number 4.0), ("seconds", .number (0.0 / 0.0)), ("seconds", .text " 2.5 ")]

def sampleTimedText : String :=
  "\x7b\"type\": \"look\", \"action\": \"SAY_for_seconds\", \"params\": " ++
    "\x7b\"seconds\": -1, \"steps\": 7, \"message\": \"new\"\x7d\x7d"

def sampleTurnedText : String :=
  "\x7b\"params\": \x7b\"message\": \"new\", \"seconds\": -1\x7d, " ++
    "\"type\": \"look\", \"action\": \"SAY_for_seconds\"\x7d"

def sampleRecord (params : List (String × Parameter)) : DropRecord :=
  ⟨false, none, some "look", some "SAY_for_seconds", params⟩

/-- Values that are kept, cut to their whole part, bounded or replaced. -/
theorem sampleCalls_settle :
    let spoken : Kind := .look (.sayFor "Hello!" 2.0)
    let loop : Kind := .control (.times 10)
    Kind.ofPalette? "look" "SAY_for_seconds" = some spoken ∧
      Kind.ofPalette? "Control" "repeat" = some loop ∧
      applyParams spoken sampleCalls = .look (.sayFor "4" 2.5) ∧
      (applyParams spoken sampleCalls).settings =
        [("message", .text "4"), ("seconds", .number 2.5)] ∧
      (applyParams spoken (sampleCalls ++ [("seconds", .text "-3")])).settings =
        [("message", .text "4"), ("seconds", .number 1.0)] ∧
      (applyParams spoken sampleCalls).InRange ∧
      (applyParams spoken sampleCalls).set "steps" (.number 3.0) =
        .error (.noParameter "say_for_seconds" "steps") ∧
      (applyParams loop [("repeatCount", .text "-7.9")]).settings =
        [("repeatCount", .count (-7))] ∧
      (applyParams loop [("repeatCount", .number 1e300)]).settings =
        [("repeatCount", .count 9223372036854775807)] ∧
      (applyParams loop [("repeatCount", .text "often")]).settings =
        [("repeatCount", .count 1)] ∧
      (applyParams (.motion (.goTo 0.0 0.0)) [("y", .text "1.5e1"), ("x", .text "inf")]).settings =
        [("x", .number 0.0), ("y", .number 15.0)] ∧
      Exists fun node => Drop.ofText ⟨Uuid.ofNat 7⟩ sampleTimedText = .ok (.create node) ∧
        node.kind = .look (.sayFor "new" 1.0) ∧ node.kind.InRange ∧
        Drop.ofText ⟨Uuid.ofNat 7⟩ sampleTurnedText = .ok (.create node) := by
  intro spoken loop
  have offered : Kind.ofPalette? "look" "SAY_for_seconds" = some spoken := by decide +kernel
  have looped : Kind.ofPalette? "Control" "repeat" = some loop := by decide +kernel
  have spokenSettles :=
    (Kind.parameters_hold_last_values.1 "look" "SAY_for_seconds" spoken).2 offered
  have loopSettles := (Kind.parameters_hold_last_values.1 "Control" "repeat" loop).2 looped
  have made : applyParams spoken sampleCalls = .look (.sayFor "4" 2.5) := by decide +kernel
  have unnamed : "steps" ∉ spoken.names := by decide
  let timed : List (String × Parameter) :=
    [("seconds", .number (-1.0)), ("steps", .number 7.0), ("message", .text "new")]
  let turned : List (String × Parameter) :=
    [("message", .text "new"), ("seconds", .number (-1.0))]
  have timedRecords : Drop.Records sampleTimedText (sampleRecord timed) none :=
    ⟨by decide +kernel, rfl⟩
  have turnedRecords : Drop.Records sampleTurnedText (sampleRecord turned) none :=
    ⟨by decide +kernel, rfl⟩
  have inPalette : Kind.Offers "look" "SAY_for_seconds" spoken := by decide +kernel
  have read : Drop.ofText ⟨Uuid.ofNat 7⟩ sampleTimedText = .ok (.create _) :=
    Drop.ofText_eq_ok_iff.2 (.create timedRecords rfl inPalette (becomes_applyParams timed spoken))
  rcases Kind.parameters_hold_last_values.2 _ _ _ read with ⟨payload, named, kind, described⟩
  have samePayload : payload = sampleRecord timed :=
    Option.some.inj (described.records.read.symm.trans timedRecords.read)
  have sameName : named = none := by
    have none := described.records.named
    rw [samePayload] at none
    exact Option.map_eq_none_iff.1 none.symm
  have sameKind : kind = spoken := by
    have same := Kind.ofPalette?_eq_some_iff.2 described.offered
    rw [samePayload] at same
    exact Option.some.inj (same.symm.trans offered)
  have reordered := described.orderless sampleTurnedText (sampleRecord turned)
  subst samePayload sameName sameKind
  refine ⟨offered, looped, made, ?_, ?_, spokenSettles.inRange sampleCalls,
    (spokenSettles.refuses _ _ unnamed _).1, ?_, ?_, ?_, ?_, _, read, by decide +kernel,
    described.inRange, reordered turnedRecords rfl rfl rfl (by decide) (by decide)⟩
  · exact (spokenSettles.settings sampleCalls).trans (by decide +kernel)
  · exact (spokenSettles.settings _).trans (by decide +kernel)
  · exact (loopSettles.settings _).trans (by decide +kernel)
  · exact (loopSettles.settings _).trans (by decide +kernel)
  · exact (loopSettles.settings _).trans (by decide +kernel)
  · exact ((becomes_applyParams _ _).settings).trans (by decide +kernel)

end Sample

end SpriteStage
