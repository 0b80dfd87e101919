import SpriteStage.Drop
import SpriteStage.Proofs.Table

namespace SpriteStage

/-!
# What the parameters of a kind hold

A kind has parameters, each with a name and a setting.  Setting a parameter by
its name replaces its setting and nothing else, and a name that the kind does
not have changes nothing.  So after any series of calls a parameter holds what
the last call with its name gave it.

What a value gives is told from the value alone: whether it is a finite number
or spells one, and what stands in for it when it does not.
-/

/-! ## The palette -/

namespace Kind

/-- The entries of the palette: the names of family and action, and the kind
that a new block starts with. -/
def palette : List ((String × String) × Kind) :=
  [(("MOTION", "MOVE"), .motion (.move 10.0)),
    (("MOTION", "TURN"), .motion (.turn 15.0)),
    (("MOTION", "GOTO"), .motion (.goTo 0.0 0.0)),
    (("CONTROL", "REPEAT"), .control (.times 10)),
    (("LOOK", "SAY"), .look (.say "Hello!")),
    (("LOOK", "SAY_FOR_SECONDS"), .look (.sayFor "Hello!" 2.0))]

/-- Whether the palette has a kind under two names, each read in either case. -/
def Offers (family action : String) (kind : Kind) : Prop :=
  ((family.map Char.toUpper, action.map Char.toUpper), kind) ∈ palette

instance (family action : String) (kind : Kind) : Decidable (Offers family action kind) :=
  inferInstanceAs (Decidable (_ ∈ palette))

theorem ofPalette?_eq_some_iff {family action : String} {kind : Kind} :
    ofPalette? family action = some kind <-> Offers family action kind := by
  unfold ofPalette? Offers
  generalize family.map Char.toUpper = first
  generalize action.map Char.toUpper = second
  split
  case h_7 => simp_all [palette]
  all_goals simp [palette, eq_comm]

end Kind

/-! ## Settings -/

/-- The finite number that a value is, or that its text spells between blanks. -/
def Parameter.meant? : Parameter -> Option Float
  | .number value => (some value).filter Float.isFinite
  | .text value =>
    ((Number.typedNumeral? (Text.trim value.toList)).map Number.Numeral.exact).filter Float.isFinite

theorem Parameter.number?_eq (value : Parameter) : value.number? = value.meant? := by
  cases value with
  | number value => rw [number?, finite?, meant?, Option.filter_some]
  | text value =>
    rw [number?, meant?]
    cases Number.typedNumeral? (Text.trim value.toList) with
    | none => rfl
    | some numeral => rw [Option.bind_some, finite?, Option.map_some, Option.filter_some]

theorem Parameter.isFinite_of_meant? {value : Parameter} {number : Float}
    (meant : value.meant? = some number) : number.isFinite = true := by
  cases value <;> rw [meant?, Option.filter_eq_some_iff] at meant <;> exact meant.2

/-- The text that a value is, or that spells it. -/
def Parameter.spelling : Parameter -> String
  | .number value => Number.messageText value
  | .text value => value

theorem Parameter.wording_eq (value : Parameter) : value.wording = value.spelling := by
  cases value <;> rfl

inductive Setting where
  | number (value : Float)
  | count (value : Int64)
  | text (value : String)
  deriving DecidableEq

namespace Setting

/-- The count of a number: its whole part, or the bound that it exceeds. -/
def counted (number : Float) : Int64 :=
  let whole := Number.wholePart number
  if whole < -9223372036854775808 then Int64.minValue
  else if 9223372036854775807 < whole then Int64.maxValue
  else Int64.ofInt whole

/-- How a value is taken when it is handed over under a name.  A message is the
spelling of the value.  A count is that of the number that is meant, and seconds
are that number if it is positive; without such a number both are 1.  Any
other parameter is the number that is meant, and without one it is 0. -/
def taken (name : String) (value : Parameter) : Setting :=
  match name with
  | "message" => .text value.spelling
  | "repeatCount" => .count ((value.meant?.map counted).getD 1)
  | "seconds" => .number ((value.meant?.filter fun number => 0.0 < number).getD 1.0)
  | _ => .number (value.meant?.getD 0.0)

/-- Whether a number is finite, and positive where it counts seconds. -/
def InRange (name : String) : Setting -> Prop
  | .number value => value.isFinite = true ∧ (name = "seconds" -> 0.0 < value)
  | _ => True

/-- A setting after some calls: what the last call with its name gave it. -/
def after (calls : List (String × Parameter)) (name : String) (setting : Setting) : Setting :=
  match Table.lookup name calls.reverse with
  | some value => taken name value
  | none => setting

/-- A call with a name counts for the parameter of that name, unless a later
one does. -/
theorem after_cons (given : String) (value : Parameter) (rest : List (String × Parameter))
    (name : String) (setting : Setting) :
    setting.after ((given, value) :: rest) name =
      (if given = name then taken given value else setting).after rest name := by
  unfold after
  rw [List.reverse_cons, Table.lookup_append]
  cases Table.lookup name rest.reverse with
  | some later => rfl
  | none =>
    by_cases same : given = name
    · simp [Table.lookup, same]
    · simp [Table.lookup, same]

end Setting

namespace Kind

def settings : Kind -> List (String × Setting)
  | .motion (.move steps) => [("steps", .number steps)]
  | .motion (.turn degrees) => [("degrees", .number degrees)]
  | .motion (.goTo x y) => [("x", .number x), ("y", .number y)]
  | .control (.times count) => [("repeatCount", .count count)]
  | .look (.say message) => [("message", .text message)]
  | .look (.sayFor message seconds) => [("message", .text message), ("seconds", .number seconds)]

def names (kind : Kind) : List String := kind.settings.map Prod.fst

def InRange (kind : Kind) : Prop :=
  forall row, row ∈ kind.settings -> row.2.InRange row.1

variable {kind one other : Kind} {name : String}

/-- A kind is known by its label and its settings. -/
theorem eq_of_settings (sameLabel : one.label = other.label)
    (sameSettings : one.settings = other.settings) : one = other := by
  unfold label at sameLabel
  unfold settings at sameSettings
  split at sameSettings <;> split at sameSettings <;> simp_all

theorem clampCount_wholePart (number : Float) :
    clampCount (Number.wholePart number) = Setting.counted number := by
  have least : Int64.minValue.toInt = -9223372036854775808 := by decide
  have most : Int64.maxValue.toInt = 9223372036854775807 := by decide
  unfold clampCount Setting.counted
  rw [least, most]
  dsimp only
  split
  · rw [Int.max_eq_left (by omega)]
    rfl
  · split
    · rw [Int.min_eq_right (by omega)]
      rfl
    · rw [Int.min_eq_left (by omega), Int.max_eq_right (by omega)]

theorem motionValue_eq (value : Parameter) : motionValue value = value.meant?.getD 0.0 := by
  rw [motionValue, Parameter.number?_eq]

theorem countValue_eq (value : Parameter) :
    countValue value = (value.meant?.map Setting.counted).getD 1 := by
  rw [countValue, Parameter.number?_eq]
  cases value.meant? with
  | none => rfl
  | some number => exact clampCount_wholePart number

theorem secondsValue_eq (value : Parameter) :
    secondsValue value = (value.meant?.filter fun number => 0.0 < number).getD 1.0 := by
  rw [secondsValue, Parameter.number?_eq]
  cases value.meant? with
  | none => rfl
  | some number =>
    rw [Option.filter_some]
    by_cases positive : 0.0 < number
    · simp [positive]
    · simp [positive]

/-- A name that a kind does not have is refused. -/
theorem set_of_notMem (unnamed : name ∉ kind.names) (value : Parameter) :
    kind.set name value = .error (.noParameter kind.label name) := by
  unfold set
  split
  case h_9 => rfl
  all_goals exact absurd (by simp [names, settings]) unnamed

/-- A name that a kind has replaces the setting of that name alone. -/
theorem set_of_mem (named : name ∈ kind.names) (value : Parameter) :
    Exists fun changed => kind.set name value = .ok changed ∧ changed.label = kind.label ∧
      changed.settings = kind.settings.map fun row =>
        (row.1, if name = row.1 then Setting.taken name value else row.2) := by
  unfold set
  split
  case h_9 =>
    -- no row of the table has the name, so the kind does not have it either
    exfalso
    unfold names settings at named
    split at named <;> simp_all
  all_goals
    refine ⟨_, rfl, rfl, ?_⟩
    simp [settings, Setting.taken, Parameter.wording_eq, motionValue_eq, countValue_eq,
      secondsValue_eq]

end Kind

/-! ## Series of calls -/

/-- What a series of calls makes of a kind.  The kind stays what it is, and each
parameter holds what the last call with its name gave it. -/
structure Kind.Becomes (kind : Kind) (calls : List (String × Parameter)) (made : Kind) :
    Prop where
  label : made.label = kind.label
  settings : made.settings = kind.settings.map fun row => (row.1, row.2.after calls row.1)

theorem Kind.Becomes.unique {kind one other : Kind} {calls : List (String × Parameter)}
    (first : kind.Becomes calls one) (second : kind.Becomes calls other) : one = other :=
  eq_of_settings (first.label.trans second.label.symm) (first.settings.trans second.settings.symm)

theorem DropRecord.becomes_applyParams (calls : List (String × Parameter)) :
    forall kind : Kind, kind.Becomes calls (applyParams kind calls) := by
  induction calls with
  | nil => exact fun kind => ⟨rfl, (List.map_id _).symm⟩
  | cons call rest step =>
    intro kind
    rcases call with ⟨name, value⟩
    rw [applyParams]
    by_cases named : name ∈ kind.names
    · rcases Kind.set_of_mem named value with ⟨changed, accepted, sameLabel, replaced⟩
      rw [accepted]
      refine ⟨(step changed).label.trans sameLabel, ?_⟩
      rw [(step changed).settings, replaced, List.map_map]
      exact List.map_congr_left fun row _ => by rw [Setting.after_cons]; rfl
    · rw [Kind.set_of_notMem named value]
      refine ⟨(step kind).label, ?_⟩
      rw [(step kind).settings]
      apply List.map_congr_left
      intro row member
      have different : name ≠ row.1 := fun same => named (same ▸ List.mem_map_of_mem member)
      rw [Setting.after_cons, if_neg different]

end SpriteStage
