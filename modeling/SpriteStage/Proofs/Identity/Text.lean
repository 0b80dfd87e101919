import Mathlib.Algebra.Ring.Nat
import SpriteStage.Identity.Text

namespace SpriteStage

/-!
# Identifiers survive their text

The written form of an identifier is read back as the same identifier.  The
digits come first: reading the hexadecimal digits of a number goes on from
what was read before, so that digits can be read in parts.  Taking hyphens out
undoes putting them in, as long as every group is full.
-/

namespace Uuid

theorem hexValue?_hexDigit {value : Nat} (small : value < 16) :
    hexValue? (hexDigit value) = some value := by
  have all : forall digit : Fin 16, hexValue? (hexDigit digit) = some digit.val := by decide
  exact all ⟨value, small⟩

theorem readHex_append (first second : List Char) :
    forall before : Nat, readHex before (first ++ second) =
      (readHex before first).bind fun value => readHex value second := by
  induction first with
  | nil => exact fun _ => rfl
  | cons char rest step =>
    intro before
    rw [List.cons_append, readHex, readHex]
    cases hexValue? char with
    | none => rfl
    | some digit => exact step _

/-- The last digits of a number are read after those that are read before. -/
theorem readHex_hexDigits (count : Nat) :
    forall before value : Nat, readHex before (hexDigits count value) =
      some (before * 16 ^ count + value % 16 ^ count) := by
  induction count with
  | zero =>
    intro before value
    rw [Nat.pow_zero, Nat.mod_one, Nat.mul_one]
    rfl
  | succ count step =>
    intro before value
    have last : forall read : Nat, readHex read [hexDigit (value % 16)] =
        some (16 * read + value % 16) := by
      intro read
      rw [readHex, hexValue?_hexDigit (Nat.mod_lt value (by decide))]
      rfl
    rw [hexDigits, readHex_append, step, Option.bind_some, last, Nat.pow_succ', Nat.mod_mul,
      Nat.mul_add, Nat.mul_left_comm, Nat.add_assoc, Nat.add_comm (16 * _)]

theorem length_hexDigits (count value : Nat) : (hexDigits count value).length = count := by
  induction count generalizing value with
  | zero => rfl
  | succ count step => rw [hexDigits, List.length_append, step, List.length_singleton]

theorem length_hyphenate (widths : List Nat) (digits : List Char) :
    (hyphenate widths digits).length = digits.length + widths.length := by
  induction widths generalizing digits with
  | nil => rfl
  | cons width rest step =>
    rw [hyphenate, List.length_append, List.length_cons, step, List.length_take,
      List.length_drop, List.length_cons]
    omega

theorem unhyphenate_hyphenate (widths : List Nat) :
    forall digits : List Char, widths.sum ≤ digits.length ->
      unhyphenate widths (hyphenate widths digits) = some digits := by
  induction widths with
  | nil => exact fun _ _ => rfl
  | cons width rest step =>
    intro digits full
    rw [List.sum_cons] at full
    have taken : (digits.take width).length = width := by
      rw [List.length_take]
      omega
    have left : rest.sum ≤ (digits.drop width).length := by
      rw [List.length_drop]
      omega
    rw [hyphenate, unhyphenate, List.drop_left' taken, List.take_left' taken]
    change (unhyphenate rest (hyphenate rest (digits.drop width))).map (digits.take width ++ ·) = _
    rw [step _ left, Option.map_some, List.take_append_drop]

theorem ofText?_toText (uuid : Uuid) : ofText? uuid.toText = some uuid := by
  have digits : (hexDigits 32 uuid.toNat).length = 32 := length_hexDigits 32 uuid.toNat
  have grouped : uuid.toChars.length = 36 := by
    rw [toChars, length_hyphenate, digits]
    rfl
  have simple : readSimple (hexDigits 32 uuid.toNat) = some uuid := by
    have below : uuid.toNat < 16 ^ 32 := uuid.bits.isLt
    rw [readSimple, if_pos digits, readHex_hexDigits, Nat.zero_mul, Nat.zero_add,
      Nat.mod_eq_of_lt below, Option.map_some, ofNat_toNat]
  rw [ofText?, toText, String.toList_ofList, ofChars?]
  have notSimple : readSimple uuid.toChars = none := by
    rw [readSimple, if_neg]
    rw [grouped]
    decide
  have isGrouped : readGrouped uuid.toChars = some uuid := by
    rw [readGrouped, if_pos grouped, toChars, unhyphenate_hyphenate groups _ (by rw [digits]; decide),
      Option.bind_some, simple]
  rw [notSimple, isGrouped]
  rfl

end Uuid

@[simp] theorem ActorId.ofText?_toText (id : ActorId) : ofText? id.toText = some id := by
  rw [ofText?, toText, Uuid.ofText?_toText]
  rfl

@[simp] theorem BlockId.ofText?_toText (id : BlockId) : ofText? id.toText = some id := by
  rw [ofText?, toText, Uuid.ofText?_toText]
  rfl

end SpriteStage
