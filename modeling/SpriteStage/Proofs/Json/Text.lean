import SpriteStage.Json.Reader

namespace SpriteStage.Json

/-!
# Strings survive their text

A string is read back from between its quotes, whatever stands behind them.
Each character is written as itself or as an escape, and in either case comes
back as one code unit, its own code point.  A code point is no half of a
surrogate pair, so the units are joined to the same characters again.
-/

/-- Reading a character that is written plainly. -/
theorem readUnits_plain {char : Char} (notQuote : char ≠ '"') (notSlash : char ≠ '\\')
    (printable : ¬ char.toNat < 32) (rest : List Char) :
    readUnits (char :: rest) =
      (readUnits rest).map fun found => (char.toNat :: found.1, found.2) := by
  rw [readUnits.eq_def]
  split
  · rename_i empty
    cases empty
  · rename_i other same
    exact absurd (List.cons.inj same).1 notQuote
  · rename_i same
    exact absurd (List.cons.inj same).1 notSlash
  · rename_i same
    exact absurd (List.cons.inj same).1 notSlash
  · rename_i same
    cases same
    rw [if_neg printable]

/-- Reading an escape of one letter. -/
theorem readUnits_letter {letter : Char} {code : Nat} (notCode : letter ≠ 'u')
    (escapes : escapeUnit? letter = some code) (rest : List Char) :
    readUnits ('\\' :: letter :: rest) =
      (readUnits rest).map fun found => (code :: found.1, found.2) := by
  rw [readUnits.eq_def]
  split
  · rename_i empty
    cases empty
  · rename_i same
    cases (List.cons.inj same).1
  · rename_i same
    exact absurd (List.cons.inj (List.cons.inj same).2).1 notCode
  · rename_i same
    cases same
    rw [escapes]
    cases readUnits rest <;> rfl
  · rename_i notLetter same
    cases same
    exact absurd rfl (notLetter letter rest rfl)

/-- The escape of a control character is read as its code. -/
theorem readUnits_control {code : Nat} (control : code < 32) (rest : List Char) :
    readUnits ('\\' :: 'u' :: (Uuid.hexDigits 4 code ++ rest)) =
      (readUnits rest).map fun found => (code :: found.1, found.2) := by
  have four : Uuid.hexDigits 4 code =
      [Uuid.hexDigit (code / 16 / 16 / 16 % 16), Uuid.hexDigit (code / 16 / 16 % 16),
        Uuid.hexDigit (code / 16 % 16), Uuid.hexDigit (code % 16)] := rfl
  have unit : readUnit (Uuid.hexDigit (code / 16 / 16 / 16 % 16))
      (Uuid.hexDigit (code / 16 / 16 % 16)) (Uuid.hexDigit (code / 16 % 16))
      (Uuid.hexDigit (code % 16)) = some code := by
    have all : forall code : Fin 32, Uuid.readHex 0 (Uuid.hexDigits 4 code) = some code.val := by
      decide
    rw [readUnit, ← four]
    exact all ⟨code, control⟩
  rw [four]
  simp only [List.cons_append, List.nil_append, readUnits, unit]
  cases readUnits rest <;> rfl

/-- Reading what a character is written as. -/
theorem readUnits_escapeChar (char : Char) (rest : List Char) :
    readUnits (escapeChar char ++ rest) =
      (readUnits rest).map fun found => (char.toNat :: found.1, found.2) := by
  unfold escapeChar
  split
  · exact readUnits_letter (by decide) rfl rest
  · exact readUnits_letter (by decide) rfl rest
  · exact readUnits_letter (by decide) rfl rest
  · exact readUnits_letter (by decide) rfl rest
  · exact readUnits_letter (by decide) rfl rest
  · exact readUnits_letter (by decide) rfl rest
  · exact readUnits_letter (by decide) rfl rest
  · rename_i notQuote notSlash _ _ _ _ _
    split
    · rename_i control
      exact readUnits_control control rest
    · rename_i printable
      exact readUnits_plain notQuote notSlash printable rest

theorem readUnits_escaped (value : List Char) (rest : List Char) :
    readUnits (value.flatMap escapeChar ++ '"' :: rest) = some (value.map Char.toNat, rest) := by
  induction value with
  | nil => rfl
  | cons char others step =>
    rw [List.flatMap_cons, List.append_assoc, readUnits_escapeChar, step]
    rfl

/-- A code point is no half of a surrogate pair. -/
theorem no_half (char : Char) :
    isLeadingHalf char.toNat = false ∧ isTrailingHalf char.toNat = false := by
  have valid : char.toNat < 0xd800 ∨ 0xdfff < char.toNat ∧ char.toNat < 0x110000 := char.valid
  simp only [isLeadingHalf, isTrailingHalf, Bool.and_eq_false_iff, decide_eq_false_iff_not]
  omega

theorem joinHalves_codes (value : List Char) : joinHalves (value.map Char.toNat) = some value := by
  induction value with
  | nil => rfl
  | cons char rest step =>
    have apart := no_half char
    rw [List.map_cons, joinHalves.eq_def]
    dsimp only
    rw [apart.1, apart.2, step, Char.ofNat_toNat]
    rfl

/-- A string is read back from its text, up to the closing quote. -/
theorem readString_quote (value : String) (rest : List Char) :
    Exists fun start => quote value = '"' :: start ∧
      readString (start ++ rest) = some (some value, rest) := by
  refine ⟨value.toList.flatMap escapeChar ++ ['"'], rfl, ?_⟩
  rw [List.append_assoc, readString, List.singleton_append, readUnits_escaped, Option.map_some,
    joinHalves_codes, Option.map_some, String.ofList_toList]

end SpriteStage.Json
