import SpriteStage.Proofs.Json.Numeral
import SpriteStage.Proofs.Number.Shortest

namespace SpriteStage.Json

open Number (Layout Binary digitChars splitDigits readDigits readSign readExponent readExponentPart
  readFractionPart Numeral)

/-!
# The text of a double is a numeral

A finite double is written as a sign, whole digits without a needless zero,
perhaps a fraction and perhaps an exponent, and always with one of the last
two.  So its text is a numeral, and not that of an integer.
-/

def AreDigits (chars : List Char) : Prop := forall char, char ∈ chars -> char.isDigit = true

theorem AreDigits.append {first second : List Char} (firstDigits : AreDigits first)
    (secondDigits : AreDigits second) : AreDigits (first ++ second) := by
  intro char inside
  rcases List.mem_append.1 inside with left | right
  · exact firstDigits char left
  · exact secondDigits char right

theorem areDigits_digitChars (number : Nat) : AreDigits (digitChars number) :=
  fun _ => isDigit_of_mem_digitChars

theorem areDigits_zeros (count : Nat) : AreDigits (List.replicate count '0') := by
  intro char inside
  rw [List.eq_of_mem_replicate inside]
  rfl

/-! ## Numerals in parts -/

structure Spelling where
  whole : List Char
  fraction : Option (List Char)
  /-- Whether the exponent is negative, and its digits. -/
  exponent : Option (Bool × List Char)

namespace Spelling

/-- The text of the fraction and what stands before it. -/
def fractionChars : Option (List Char) -> List Char
  | none => []
  | some digits => '.' :: digits

def exponentChars : Option (Bool × List Char) -> List Char
  | none => []
  | some (negative, digits) => 'e' :: (if negative then '-' else '+') :: digits

def chars (spelling : Spelling) : List Char :=
  spelling.whole ++ (fractionChars spelling.fraction ++ exponentChars spelling.exponent)

/-- Whether the parts are digits that the reader accepts, and not those of an
integer. -/
structure IsReal (spelling : Spelling) : Prop where
  whole : AreDigits spelling.whole
  canonical : isCanonicalWhole spelling.whole = true
  fraction : forall digits, spelling.fraction = some digits -> AreDigits digits ∧ digits ≠ []
  exponent : forall negative digits, spelling.exponent = some (negative, digits) ->
    AreDigits digits ∧ digits ≠ []
  marked : spelling.fraction ≠ none ∨ spelling.exponent ≠ none

variable {spelling : Spelling}

/-- Whether a text begins with what can stand behind the whole digits. -/
def Follows (text : List Char) : Prop :=
  forall char tail, text = char :: tail -> char = '.' ∨ char = 'e'

theorem splitDigits_append_of_follows {digits rest : List Char} (all : AreDigits digits)
    (follows : Follows rest) : splitDigits (digits ++ rest) = (digits, rest) := by
  induction digits with
  | nil =>
    cases rest with
    | nil => rfl
    | cons char tail => rcases follows char tail rfl with rfl | rfl <;> rfl
  | cons char tail step =>
    have own := all char List.mem_cons_self
    have later := step fun other inside => all other (List.mem_cons_of_mem _ inside)
    simp only [splitDigits, Prod.mk.injEq] at later
    simp [splitDigits, own, later]

theorem follows_exponentChars (exponent : Option (Bool × List Char)) :
    Follows (exponentChars exponent) := by
  intro char tail same
  rcases exponent with _ | ⟨negative, digits⟩
  · cases same
  · cases same
    exact Or.inr rfl

theorem follows_fractionChars (fraction : Option (List Char))
    (exponent : Option (Bool × List Char)) :
    Follows (fractionChars fraction ++ exponentChars exponent) := by
  cases fraction with
  | none => exact follows_exponentChars exponent
  | some digits =>
    intro char tail same
    cases same
    exact Or.inl rfl

theorem readMinus_chars (real : spelling.IsReal) (negative : Bool) :
    readMinus ((if negative then ['-'] else []) ++ spelling.chars) = (negative, spelling.chars) := by
  cases negative with
  | true => rfl
  | false =>
    change readMinus spelling.chars = _
    rw [chars]
    cases digits : spelling.whole with
    | nil =>
      have canonical := real.canonical
      rw [digits] at canonical
      cases canonical
    | cons char tail =>
      apply readMinus_cons
      rintro rfl
      cases real.whole '-' (digits ▸ List.mem_cons_self)

theorem readFractionPart_chars (real : spelling.IsReal) :
    readFractionPart (fractionChars spelling.fraction ++ exponentChars spelling.exponent) =
      (spelling.fraction, exponentChars spelling.exponent) := by
  cases written : spelling.fraction with
  | none =>
    rcases spelling.exponent with _ | ⟨negative, digits⟩
    · rfl
    · exact readFractionPart_cons (by decide) _
  | some digits =>
    have split := splitDigits_append_of_follows (real.fraction digits written).1
      (follows_exponentChars spelling.exponent)
    change (some (splitDigits (digits ++ exponentChars spelling.exponent)).1,
      (splitDigits (digits ++ exponentChars spelling.exponent)).2) = _
    rw [split]

theorem readExponentPart_chars (real : spelling.IsReal) :
    Exists fun exponent => readExponentPart (exponentChars spelling.exponent) =
      some (exponent, []) ∧ (spelling.exponent ≠ none -> exponent ≠ none) := by
  rcases written : spelling.exponent with _ | ⟨negative, digits⟩
  · exact ⟨none, rfl, fun absent => absurd rfl absent⟩
  · have made := real.exponent negative digits written
    have all := splitDigits_of_all made.1
    have read : readExponent ((if negative then '-' else '+') :: digits) =
        some (if negative then -(readDigits digits : Int) else readDigits digits, []) := by
      cases negative <;> simp [readExponent, readSign, all, made.2]
    refine ⟨some (if negative then -(readDigits digits : Int) else readDigits digits), ?_, nofun⟩
    change (readExponent _).map _ = _
    rw [read]
    rfl

/-- A sign and the parts of a real are a numeral, and not that of an
integer. -/
theorem readNumeral_chars (real : spelling.IsReal) (negative : Bool) :
    Exists fun numeral =>
      readNumeral ((if negative then ['-'] else []) ++ spelling.chars) = some (numeral, []) ∧
        (numeral.fraction ≠ none ∨ numeral.exponent ≠ none) := by
  have split : splitDigits spelling.chars = _ :=
    splitDigits_append_of_follows real.whole (follows_fractionChars _ _)
  rcases readExponentPart_chars real with ⟨exponent, power, present⟩
  refine ⟨⟨negative, spelling.whole, spelling.fraction, exponent⟩, ?_,
    real.marked.imp_right present⟩
  rw [readNumeral, readMinus_chars real]
  dsimp only
  rw [split]
  dsimp only
  rw [readFractionPart_chars real]
  dsimp only
  rw [power, if_neg]
  rw [real.canonical, Bool.not_true, Bool.false_or, decide_eq_true_eq]
  exact fun empty => (real.fraction [] empty).2 rfl

end Spelling

/-! ## The layout of data texts -/

open Spelling (fractionChars exponentChars)

/-- Whether a text is made of the parts of a real. -/
def IsReal (text : List Char) : Prop :=
  Exists fun spelling : Spelling => spelling.IsReal ∧ text = spelling.chars

theorem isReal_point {whole fraction : List Char} (wholeDigits : AreDigits whole)
    (canonical : isCanonicalWhole whole = true) (fractionDigits : AreDigits fraction)
    (more : fraction ≠ []) : IsReal (whole ++ '.' :: fraction) := by
  refine ⟨⟨whole, some fraction, none⟩, ⟨wholeDigits, canonical, ?_, nofun, Or.inl nofun⟩, ?_⟩
  · intro digits same
    cases same
    exact ⟨fractionDigits, more⟩
  · rw [Spelling.chars, fractionChars, exponentChars, List.append_nil]

theorem isReal_zero : IsReal ['0', '.', '0'] :=
  isReal_point (areDigits_zeros 1) rfl (areDigits_zeros 1) (List.cons_ne_nil _ _)

variable {char : Char} {tail : List Char}

theorem isReal_positionalChars (all : AreDigits (char :: tail)) (nonzero : char ≠ '0')
    (exponent : Int) : IsReal (Layout.data.positionalChars (char :: tail) exponent) := by
  rw [Layout.positionalChars]
  split
  · exact isReal_point (areDigits_zeros 1) rfl ((areDigits_zeros _).append all) (by simp)
  · dsimp only
    split
    · exact isReal_point (all.append (areDigits_zeros _)) (isCanonicalWhole_cons nonzero _)
        (areDigits_zeros 1) (List.cons_ne_nil _ _)
    · rename_i long
      refine isReal_point (fun digit inside => all digit (List.mem_of_mem_take inside))
        (isCanonicalWhole_cons nonzero _)
        (fun digit inside => all digit (List.mem_of_mem_drop inside)) ?_
      rw [Ne, List.drop_eq_nil_iff]
      exact long

theorem isReal_scientificChars (all : AreDigits (char :: tail)) (nonzero : char ≠ '0')
    (exponent : Int) : IsReal (Layout.scientificChars (char :: tail) exponent) := by
  have single : AreDigits [char] := by
    intro digit inside
    exact all digit (List.mem_cons.2 (Or.inl (List.mem_singleton.1 inside)))
  have marked (fraction : Option (List Char))
      (fractionDigits : forall digits, fraction = some digits -> AreDigits digits ∧ digits ≠ []) :
      IsReal ([char] ++ (fractionChars fraction ++
        'e' :: (if exponent < 0 then '-' else '+') :: digitChars exponent.natAbs)) := by
    refine ⟨⟨[char], fraction, some (exponent < 0, digitChars exponent.natAbs)⟩,
      ⟨single, isCanonicalWhole_cons nonzero [], fractionDigits, ?_, Or.inr nofun⟩, ?_⟩
    · intro negative digits same
      cases same
      exact ⟨areDigits_digitChars _, Nat.toDigits_ne_nil⟩
    · simp [Spelling.chars, exponentChars]
  cases tail with
  | nil => exact marked none nofun
  | cons second rest =>
    refine marked (some (second :: rest)) ?_
    intro digits same
    cases same
    exact ⟨fun digit inside => all digit (List.mem_cons_of_mem _ inside), List.cons_ne_nil _ _⟩

theorem isReal_decimalChars {decimal : Number.Decimal} (positive : 0 < decimal.digits) :
    IsReal (Layout.data.decimalChars decimal) := by
  rcases exists_digitChars_of_pos decimal.digits positive with ⟨char, tail, digits, nonzero⟩
  have all : AreDigits (char :: tail) := digits ▸ areDigits_digitChars decimal.digits
  rw [Layout.decimalChars, digits]
  split
  · exact isReal_positionalChars all nonzero _
  · exact isReal_scientificChars all nonzero _

/-- The largest exponent is left to what is not finite. -/
theorem exponent_ne_of_isFinite {value : Float} (finite : value.isFinite = true) :
    value.toBits.toNat / Binary.leadingBit % 2048 ≠ 2047 := by
  intro full
  have exponent : @Float.Model.UnpackedFloat.unpackExponent Float.Model.Format.binary64
      value.toBits.toBitVec = -1#11 := by
    apply BitVec.eq_of_toNat_eq
    rw [Float.Model.UnpackedFloat.unpackExponent, BitVec.toNat_cast, BitVec.extractLsb_toNat]
    change value.toBits.toNat >>> 52 % 2 ^ 11 = 2047
    rw [Nat.shiftRight_eq_div_pow]
    exact full
  have unpacked : (Float.Model.UnpackedFloat.unpack Float.Model.Format.binary64
      value.toBits.toBitVec).isFinite = true := finite
  unfold Float.Model.UnpackedFloat.unpack at unpacked
  dsimp only at unpacked
  rw [if_pos exponent] at unpacked
  split at unpacked
  · cases unpacked
  · cases unpacked

/-- A finite double is a significand times a power of two. -/
theorem exists_finite {value : Float} (finite : value.isFinite = true) :
    Exists fun negative => Exists fun significand => Exists fun exponent =>
      Binary.ofFloat value = .finite negative significand exponent := by
  rw [Binary.ofFloat]
  split
  · rename_i full
    exact absurd full (exponent_ne_of_isFinite finite)
  · split
    · exact ⟨_, _, _, rfl⟩
    · exact ⟨_, _, _, rfl⟩

/-- The text of a finite double is a numeral, and not that of an integer. -/
theorem readNumeral_data {value : Float} (finite : value.isFinite = true) :
    Exists fun numeral => readNumeral (Layout.data.chars value) = some (numeral, []) ∧
      (numeral.fraction ≠ none ∨ numeral.exponent ≠ none) := by
  rcases exists_finite finite with ⟨negative, significand, exponent, parts⟩
  have real : IsReal (if significand = 0 then '0' :: Layout.data.wholeTail
      else Layout.data.decimalChars (Number.shortest significand exponent Layout.data.tie)) := by
    split
    · exact isReal_zero
    · rename_i nonzero
      exact isReal_decimalChars (Number.shortest_pos (Nat.pos_of_ne_zero nonzero) _ _)
  rcases real with ⟨spelling, made, same⟩
  rw [Layout.chars, parts]
  dsimp only
  rw [Layout.finiteChars, same]
  exact Spelling.readNumeral_chars made negative

theorem realOf_eq_some {negative : Bool} {leading : Leading} {exponent : Int} {amount : JsonNumber}
    (meant : realOf negative leading exponent = some amount) : amount = .real amount.toFloat := by
  rcases Option.map_eq_some_iff.1 meant with ⟨value, _, rfl⟩
  rfl

/-- A numeral with a fraction or an exponent stands for a double. -/
theorem real_of_numberOf {numeral : Numeral} {amount : JsonNumber}
    (marked : numeral.fraction ≠ none ∨ numeral.exponent ≠ none)
    (meant : numberOf numeral = some amount) : amount = .real amount.toFloat := by
  rcases numeral with ⟨negative, whole, fraction, exponent⟩
  rcases fraction with _ | fraction
  · rcases exponent with _ | exponent
    · rcases marked with absent | absent <;> exact absurd rfl absent
    · exact realOf_eq_some meant
  · exact realOf_eq_some meant

end SpriteStage.Json
