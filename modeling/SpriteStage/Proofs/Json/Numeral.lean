import SpriteStage.Json.Reader
import SpriteStage.Json.Printer

namespace SpriteStage.Json

open Number (digitChars digitValue splitDigits readSign readExponent readExponentPart readFractionPart
  Numeral)

/-!
# Numerals survive their text

A numeral is read up to the end of the text, or up to what may follow a value
inside a list or an object: a comma or a closing bracket.  Neither continues a
numeral, so a numeral that is read alone is read in the same way before them.

The digits of an integer have no needless zero in front and spell the integer
again, and as long as it fits 64 bits no digit is turned into a power of ten.
-/

/-- Whether a text may stand right behind a value. -/
def Stops : List Char -> Prop
  | [] => True
  | char :: _ => char = ',' ∨ char = ']' ∨ char = '\x7d'

theorem Stops.head_cases {char : Char} {tail : List Char} (stops : Stops (char :: tail)) :
    char ≠ '-' ∧ char ≠ '+' ∧ char ≠ '.' ∧ char ≠ 'e' ∧ char ≠ 'E' ∧ char.isDigit = false ∧
      isSpace char = false := by
  rcases stops with rfl | rfl | rfl <;> decide

variable {rest : List Char}

/-! ## Numerals before other text -/

/-- Reading an optional character at the front looks at nothing behind it. -/
theorem readMinus_cons {char : Char} (plain : char ≠ '-') (tail : List Char) :
    readMinus (char :: tail) = (false, char :: tail) := by
  unfold readMinus
  split
  · rename_i same
    exact absurd (List.cons.inj same).1 plain
  · rfl

theorem readSign_cons {char : Char} (notPlus : char ≠ '+') (notMinus : char ≠ '-')
    (tail : List Char) : readSign (char :: tail) = (false, char :: tail) := by
  unfold readSign
  split
  · rename_i same
    exact absurd (List.cons.inj same).1 notPlus
  · rename_i same
    exact absurd (List.cons.inj same).1 notMinus
  · rfl

theorem readFractionPart_cons {char : Char} (notPoint : char ≠ '.') (tail : List Char) :
    readFractionPart (char :: tail) = (none, char :: tail) := by
  unfold readFractionPart
  split
  · rename_i same
    exact absurd (List.cons.inj same).1 notPoint
  · rfl

theorem readExponentPart_cons {char : Char} (notLower : char ≠ 'e') (notUpper : char ≠ 'E')
    (tail : List Char) : readExponentPart (char :: tail) = some (none, char :: tail) := by
  unfold readExponentPart
  split
  · rename_i same
    exact absurd (List.cons.inj same).1 notLower
  · rename_i same
    exact absurd (List.cons.inj same).1 notUpper
  · rfl

theorem readMinus_append (stops : Stops rest) (text : List Char) :
    readMinus (text ++ rest) = ((readMinus text).1, (readMinus text).2 ++ rest) := by
  cases text with
  | nil =>
    cases rest with
    | nil => rfl
    | cons char tail => exact readMinus_cons stops.head_cases.1 tail
  | cons char tail =>
    by_cases minus : char = '-'
    · rw [minus]
      rfl
    · rw [List.cons_append, readMinus_cons minus, readMinus_cons minus]
      rfl

theorem readSign_append (stops : Stops rest) (text : List Char) :
    readSign (text ++ rest) = ((readSign text).1, (readSign text).2 ++ rest) := by
  cases text with
  | nil =>
    cases rest with
    | nil => rfl
    | cons char tail => exact readSign_cons stops.head_cases.2.1 stops.head_cases.1 tail
  | cons char tail =>
    by_cases plus : char = '+'
    · rw [plus]
      rfl
    · by_cases minus : char = '-'
      · rw [minus]
        rfl
      · rw [List.cons_append, readSign_cons plus minus, readSign_cons plus minus]
        rfl

theorem splitDigits_append (stops : Stops rest) (text : List Char) :
    splitDigits (text ++ rest) = ((splitDigits text).1, (splitDigits text).2 ++ rest) := by
  induction text with
  | nil =>
    cases rest with
    | nil => rfl
    | cons char tail =>
      have noDigit := stops.head_cases.2.2.2.2.2.1
      simp [splitDigits, noDigit]
  | cons char tail step =>
    by_cases digit : char.isDigit = true
    · simp only [splitDigits, Prod.mk.injEq] at step
      simp [splitDigits, digit, step]
    · simp [splitDigits, digit]

theorem readFractionPart_append (stops : Stops rest) (text : List Char) :
    readFractionPart (text ++ rest) =
      ((readFractionPart text).1, (readFractionPart text).2 ++ rest) := by
  cases text with
  | nil =>
    cases rest with
    | nil => rfl
    | cons char tail => exact readFractionPart_cons stops.head_cases.2.2.1 tail
  | cons char tail =>
    by_cases point : char = '.'
    · rw [point]
      change (some (splitDigits (tail ++ rest)).1, (splitDigits (tail ++ rest)).2) = _
      rw [splitDigits_append stops]
      rfl
    · rw [List.cons_append, readFractionPart_cons point, readFractionPart_cons point]
      rfl

theorem readExponent_append (stops : Stops rest) (text : List Char) :
    readExponent (text ++ rest) =
      (readExponent text).map fun found => (found.1, found.2 ++ rest) := by
  unfold readExponent
  rw [readSign_append stops]
  dsimp only
  rw [splitDigits_append stops]
  dsimp only
  split <;> rfl

theorem readExponentPart_append (stops : Stops rest) (text : List Char) :
    readExponentPart (text ++ rest) =
      (readExponentPart text).map fun found => (found.1, found.2 ++ rest) := by
  cases text with
  | nil =>
    cases rest with
    | nil => rfl
    | cons char tail =>
      have apart := stops.head_cases
      exact readExponentPart_cons apart.2.2.2.1 apart.2.2.2.2.1 tail
  | cons char tail =>
    have marked : (readExponent (tail ++ rest)).map (fun found => (some found.1, found.2)) =
        ((readExponent tail).map fun found => (some found.1, found.2)).map
          fun found => (found.1, found.2 ++ rest) := by
      rw [readExponent_append stops, Option.map_map, Option.map_map]
      rfl
    by_cases lower : char = 'e'
    · rw [lower]
      exact marked
    · by_cases upper : char = 'E'
      · rw [upper]
        exact marked
      · rw [List.cons_append, readExponentPart_cons lower upper, readExponentPart_cons lower upper]
        rfl

/-- A numeral is read in the same way before what may follow it. -/
theorem readNumeral_append (stops : Stops rest) (text : List Char) :
    readNumeral (text ++ rest) =
      (readNumeral text).map fun found => (found.1, found.2 ++ rest) := by
  unfold readNumeral
  rw [readMinus_append stops]
  dsimp only
  rw [splitDigits_append stops]
  dsimp only
  rw [readFractionPart_append stops]
  dsimp only
  rw [readExponentPart_append stops]
  split
  · rfl
  · cases readExponentPart (readFractionPart (splitDigits (readMinus text).2).2).2 <;> rfl

/-- A numeral begins with its sign or a digit. -/
theorem head_of_readNumeral {text : List Char} {found : Numeral × List Char}
    (read : readNumeral text = some found) :
    Exists fun char => Exists fun tail => text = char :: tail ∧
      (char = '-' ∨ char.isDigit = true) := by
  cases text with
  | nil => cases read
  | cons char tail =>
    refine ⟨char, tail, rfl, ?_⟩
    by_cases minus : char = '-'
    · exact Or.inl minus
    · by_cases digit : char.isDigit = true
      · exact Or.inr digit
      · have noDigits : splitDigits (char :: tail) = ([], char :: tail) := by
          simp [splitDigits, digit]
        rw [readNumeral, readMinus_cons minus] at read
        dsimp only at read
        rw [noDigits] at read
        cases read

/-! ## The digits of a number -/

theorem splitDigits_of_all {digits : List Char}
    (all : forall char, char ∈ digits -> char.isDigit = true) :
    splitDigits digits = (digits, []) := by
  induction digits with
  | nil => rfl
  | cons char rest step =>
    have later := step fun other member => all other (List.mem_cons_of_mem _ member)
    have own := all char List.mem_cons_self
    simp only [splitDigits, Prod.mk.injEq] at later
    simp [splitDigits, own, later]

theorem isDigit_of_mem_digitChars {number : Nat} {char : Char} (member : char ∈ digitChars number) :
    char.isDigit = true := Nat.isDigit_of_mem_toDigits (by decide) (by decide) member

/-- The first digit of a positive number is not zero. -/
theorem exists_digitChars_of_pos (number : Nat) : 0 < number ->
    Exists fun char => Exists fun tail => digitChars number = char :: tail ∧ char ≠ '0' := by
  induction number using Nat.strongRecOn with
  | ind number step =>
    intro positive
    by_cases small : number < 10
    · refine ⟨number.digitChar, [], Nat.toDigits_of_lt_base small, ?_⟩
      have all : forall digit : Fin 10, 0 < digit.val -> digit.val.digitChar ≠ '0' := by decide
      exact all ⟨number, small⟩ positive
    · have large : 10 ≤ number := Nat.le_of_not_lt small
      rcases step (number / 10) (by omega) (by omega) with ⟨char, tail, digits, nonzero⟩
      refine ⟨char, tail ++ [(number % 10).digitChar], ?_, nonzero⟩
      rw [digitChars, Nat.toDigits_of_base_le (by decide) large, ← digitChars, digits]
      rfl

theorem isCanonicalWhole_cons {char : Char} (nonzero : char ≠ '0') (tail : List Char) :
    isCanonicalWhole (char :: tail) = true := by
  rw [isCanonicalWhole.eq_def]
  split
  · rename_i empty
    cases empty
  · rename_i same
    exact absurd (List.cons.inj same).1 nonzero
  · rfl

theorem isCanonicalWhole_digitChars (number : Nat) : isCanonicalWhole (digitChars number) = true := by
  cases number with
  | zero => rfl
  | succ number =>
    rcases exists_digitChars_of_pos (number + 1) (Nat.succ_pos number) with
      ⟨char, tail, digits, nonzero⟩
    rw [digits]
    exact isCanonicalWhole_cons nonzero tail

/-- The digits of a number are a numeral without fraction and exponent. -/
theorem readNumeral_digitChars (number : Nat) :
    readNumeral (digitChars number) = some (⟨false, digitChars number, none, none⟩, []) ∧
      readNumeral ('-' :: digitChars number) =
        some (⟨true, digitChars number, none, none⟩, []) := by
  have whole : splitDigits (digitChars number) = (digitChars number, []) :=
    splitDigits_of_all fun _ member => isDigit_of_mem_digitChars member
  have unsigned : readMinus (digitChars number) = (false, digitChars number) := by
    cases digits : digitChars number with
    | nil => rfl
    | cons char tail =>
      have digit : char.isDigit = true :=
        isDigit_of_mem_digitChars (digits ▸ List.mem_cons_self : char ∈ digitChars number)
      apply readMinus_cons
      rintro rfl
      cases digit
  have rest : readFractionPart [] = (none, []) ∧ readExponentPart [] = some (none, []) :=
    ⟨rfl, rfl⟩
  constructor
  · rw [readNumeral, unsigned]
    dsimp only
    rw [whole]
    dsimp only
    rw [rest.1, isCanonicalWhole_digitChars]
    dsimp only
    rw [rest.2]
    rfl
  · have signed : readMinus ('-' :: digitChars number) = (true, digitChars number) := rfl
    rw [readNumeral, signed]
    dsimp only
    rw [whole]
    dsimp only
    rw [rest.1, isCanonicalWhole_digitChars]
    dsimp only
    rw [rest.2]
    rfl

theorem le_ofDigitChars (digits : List Char) :
    forall before : Nat, before ≤ Nat.ofDigitChars 10 digits before := by
  induction digits with
  | nil => exact fun before => Nat.le_refl before
  | cons char rest step =>
    intro before
    rw [Nat.ofDigitChars_cons]
    exact Nat.le_trans (by omega) (step _)

/-- Digits that spell a number within a word are all taken into the word. -/
theorem foldl_whole (digits : List Char) :
    forall before : Nat, Nat.ofDigitChars 10 digits before < wordLimit ->
      digits.foldl Leading.whole ⟨before, 0, false⟩ =
        ⟨Nat.ofDigitChars 10 digits before, 0, false⟩ := by
  induction digits with
  | nil => exact fun _ _ => rfl
  | cons char rest step =>
    intro before fits
    rw [Nat.ofDigitChars_cons] at fits ⊢
    have next : Leading.whole ⟨before, 0, false⟩ char =
        ⟨10 * before + (char.toNat - '0'.toNat), 0, false⟩ := by
      have below := Nat.lt_of_le_of_lt (le_ofDigitChars rest _) fits
      rw [Leading.whole, if_neg]
      · rfl
      · rw [Bool.false_or, decide_eq_true_eq]
        exact Nat.not_le_of_lt below
    rw [List.foldl_cons, next]
    exact step _ fits

theorem foldl_whole_digitChars {number : Nat} (fits : number < wordLimit) :
    (digitChars number).foldl Leading.whole ⟨0, 0, false⟩ = ⟨number, 0, false⟩ := by
  have spelled : Nat.ofDigitChars 10 (digitChars number) 0 = number :=
    Nat.ofDigitChars_ten_toDigits
  rw [foldl_whole _ 0 (by rwa [spelled]), spelled]

/-! ## Integers and doubles -/

/-- The integers that a number of the format can be. -/
def IsInteger (value : Int) : Prop := Int64.minValue.toInt ≤ value ∧ value < wordLimit

/-- An integer is read back from its numeral. -/
theorem readNumeral_integerChars {value : Int} (fits : IsInteger value) :
    Exists fun numeral => readNumeral (integerChars value) = some (numeral, []) ∧
      numberOf numeral = some (.integer value) := by
  cases value with
  | ofNat number =>
    have below : number < wordLimit := Int.ofNat_lt.1 fits.2
    refine ⟨_, (readNumeral_digitChars number).1, ?_⟩
    rw [numberOf, foldl_whole_digitChars below]
    rfl
  | negSucc number =>
    have least : Int64.minValue.toInt = -(2 ^ 63) := rfl
    have least' := fits.1
    rw [least] at least'
    have below : number + 1 < wordLimit := by
      rw [wordLimit]
      change number + 1 < 18446744073709551616
      omega
    refine ⟨_, (readNumeral_digitChars (number + 1)).2, ?_⟩
    rw [numberOf, foldl_whole_digitChars below]
    dsimp only
    rw [if_neg Bool.false_ne_true, Bool.not_true, if_neg Bool.false_ne_true, if_neg]
    · rfl
    · rw [least]
      omega

/-- Whether a double is finite and is read back from its own digits. -/
def ReadsBack (value : Float) : Prop :=
  value.isFinite = true ∧ Exists fun numeral =>
    readNumeral (Number.Layout.data.chars value) = some (numeral, []) ∧
      numberOf numeral = some (.real value)

theorem readsBack_iff (value : Float) :
    ReadsBack value <-> value.isFinite = true ∧
      ((readNumeral (Number.Layout.data.chars value)).bind fun found =>
        if found.2 = [] then numberOf found.1 else none) = some (.real value) := by
  apply and_congr_right
  intro _
  rw [Option.bind_eq_some_iff]
  constructor
  · rintro ⟨numeral, read, meant⟩
    exact ⟨(numeral, []), read, meant⟩
  · rintro ⟨⟨numeral, rest⟩, read, meant⟩
    cases rest with
    | nil => exact ⟨numeral, read, meant⟩
    | cons char tail => cases meant

instance (value : Float) : Decidable (ReadsBack value) :=
  decidable_of_iff _ (readsBack_iff value).symm

end SpriteStage.Json
