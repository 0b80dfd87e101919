import SpriteStage.Proofs.Json.Spelling
import SpriteStage.Proofs.Json.Text

namespace SpriteStage.Json

/-!
# Values read from their own texts

The compact text of a value is always read, and `reread` says as what: the
value itself, except that a double may come back as another one, that a double
without a numeral comes back as nothing, and that what is nested too deeply is
void.  If none of this happens the value survives its text.

The reader is followed through the text of a value with anything behind it
that may follow a value.  It spends no more fuel than the text has characters.
-/

mutual

def reals : Json -> List Float
  | .number (.real value) => [value]
  | .array items => realsOfItems items
  | .object members => realsOfMembers members
  | _ => []

def realsOfItems : List Json -> List Float
  | [] => []
  | item :: rest => reals item ++ realsOfItems rest

def realsOfMembers : List (String × Json) -> List Float
  | [] => []
  | (_, value) :: rest => reals value ++ realsOfMembers rest

end

mutual

/-- Whether no part of a value is void and its integers fit 64 bits. -/
def Sized : Json -> Prop
  | .void => False
  | .number (.integer value) => IsInteger value
  | .array items => SizedItems items
  | .object members => SizedMembers members
  | _ => True

def SizedItems : List Json -> Prop
  | [] => True
  | item :: rest => Sized item ∧ SizedItems rest

def SizedMembers : List (String × Json) -> Prop
  | [] => True
  | (_, value) :: rest => Sized value ∧ SizedMembers rest

end

/-- What the text of a finite double is read as. -/
def rereadDouble (value : Float) : Json :=
  match (readNumeral (Number.Layout.data.chars value)).bind fun found => numberOf found.1 with
  | some amount => .number amount
  | none => .void

mutual

/-- What the text of a value is read as, with room for a number of lists and
objects inside each other. -/
def reread : (room : Nat) -> Json -> Json
  | _, .number (.real value) => if value.isFinite then rereadDouble value else .null
  | room, .array items => if room = 0 then .void else .array (rereadItems (room - 1) items)
  | room, .object members => if room = 0 then .void else .object (rereadMembers (room - 1) members)
  | _, value => value

def rereadItems : (room : Nat) -> List Json -> List Json
  | _, [] => []
  | room, item :: rest => reread room item :: rereadItems room rest

def rereadMembers : (room : Nat) -> List (String × Json) -> List (String × Json)
  | _, [] => []
  | room, (key, value) :: rest => (key, reread room value) :: rereadMembers room rest

end

variable {fuel room : Nat} {rest after : List Char}

/-! ## How texts begin -/

theorem skipSpace_cons {char : Char} (visible : isSpace char = false) (rest : List Char) :
    skipSpace (char :: rest) = char :: rest := by
  simp [skipSpace, visible]

/-- Whether a text begins with a character that can be the first one of a
value. -/
def Opens (text : List Char) : Prop :=
  Exists fun char => Exists fun tail =>
    text = char :: tail ∧ isSpace char = false ∧ char ≠ ']' ∧ char ≠ '\x7d'

theorem Opens.skipSpace_eq {text : List Char} (opens : Opens text) : skipSpace text = text := by
  rcases opens with ⟨char, tail, rfl, visible, _⟩
  exact skipSpace_cons visible tail

theorem Opens.length_pos {text : List Char} (opens : Opens text) : 0 < text.length := by
  rcases opens with ⟨char, tail, rfl, _⟩
  exact Nat.succ_pos _

theorem Opens.append {text : List Char} (opens : Opens text) (rest : List Char) :
    Opens (text ++ rest) := by
  rcases opens with ⟨char, tail, rfl, first⟩
  exact ⟨char, tail ++ rest, rfl, first⟩

theorem opens_quote (value : String) : Opens (quote value) := by
  rcases readString_quote value [] with ⟨start, quoted, _⟩
  exact ⟨'"', start, quoted, rfl, by decide, by decide⟩

theorem isSpace_of_isDigit {char : Char} (digit : char.isDigit = true) : isSpace char = false := by
  rw [Bool.eq_false_iff]
  intro space
  simp only [isSpace, Bool.or_eq_true, beq_iff_eq, or_assoc] at space
  rcases space with rfl | rfl | rfl | rfl <;> cases digit

theorem opens_of_readNumeral {text : List Char} {found : Number.Numeral × List Char}
    (read : readNumeral text = some found) : Opens text := by
  rcases head_of_readNumeral read with ⟨char, tail, rfl, minus | digit⟩
  · exact ⟨char, tail, rfl, minus ▸ rfl, minus ▸ by decide, minus ▸ by decide⟩
  · refine ⟨char, tail, rfl, isSpace_of_isDigit digit, ?_, ?_⟩
    · rintro rfl
      cases digit
    · rintro rfl
      cases digit

/-! ## Single values -/

theorem readValue_string (fuel room : Nat) (rest : List Char) :
    readValue (fuel + 1) room ('"' :: rest) =
      match readString rest with
      | some (some value, tail) => some (.string value, tail)
      | some (none, tail) => some (void, tail)
      | none => none := rfl

theorem readValue_numeral {text : List Char} {numeral : Number.Numeral}
    (read : readNumeral text = some (numeral, rest)) :
    readValue (fuel + 1) room text = some (((numberOf numeral).map number).getD .void, rest) := by
  rcases head_of_readNumeral read with ⟨char, tail, rfl, head⟩
  have other : forall plain : Char, plain ≠ '-' -> plain.isDigit = false -> char ≠ plain := by
    rintro plain notMinus notDigit rfl
    rcases head with minus | digit
    · exact notMinus minus
    · rw [notDigit] at digit
      cases digit
  rw [readValue, (opens_of_readNumeral read).skipSpace_eq]
  split
  case h_1 same => cases same
  case h_2 same | h_3 same | h_4 same | h_5 same | h_6 same | h_7 same =>
    exact absurd (List.cons.inj same).1 (other _ (by decide) rfl)
  case h_8 =>
    rw [read]
    dsimp only
    cases numberOf numeral <;> rfl

/-- Whether a value is read from its text as expected, with whatever may
follow a value behind it. -/
structure Rereads (value : Json) : Prop where
  opens : Opens value.chars
  reads : forall (fuel room : Nat) (rest : List Char), value.chars.length ≤ fuel -> Stops rest ->
    readValue fuel room (value.chars ++ rest) = some (value.reread room, rest)

/-- A text that begins like a value is never read without fuel. -/
theorem Rereads.of_succ {value : Json} (opens : Opens value.chars)
    (reads : forall (fuel room : Nat) (rest : List Char), value.chars.length ≤ fuel + 1 ->
      Stops rest ->
        readValue (fuel + 1) room (value.chars ++ rest) = some (value.reread room, rest)) :
    Rereads value := by
  refine ⟨opens, ?_⟩
  intro fuel room rest fuelled stops
  cases fuel with
  | zero => exact absurd fuelled (Nat.not_le_of_lt opens.length_pos)
  | succ fuel => exact reads fuel room rest fuelled stops

theorem rereads_null : Rereads .null := by
  refine .of_succ ⟨'n', ['u', 'l', 'l'], rfl, rfl, by decide, by decide⟩ ?_
  exact fun _ _ _ _ _ => rfl

theorem rereads_bool (truth : Bool) : Rereads (.bool truth) := by
  cases truth with
  | true =>
    refine .of_succ ⟨'t', ['r', 'u', 'e'], rfl, rfl, by decide, by decide⟩ ?_
    exact fun _ _ _ _ _ => rfl
  | false =>
    refine .of_succ ⟨'f', ['a', 'l', 's', 'e'], rfl, rfl, by decide, by decide⟩ ?_
    exact fun _ _ _ _ _ => rfl

theorem rereads_numeral {value : Json} {numeral : Number.Numeral}
    (read : readNumeral value.chars = some (numeral, []))
    (meant : forall room, value.reread room = ((numberOf numeral).map number).getD .void) :
    Rereads value := by
  refine .of_succ (opens_of_readNumeral read) ?_
  intro fuel room rest _ stops
  have before : readNumeral (value.chars ++ rest) = some (numeral, rest) := by
    rw [readNumeral_append stops, read]
    rfl
  rw [readValue_numeral before, meant]

theorem rereads_integer {value : Int} (fits : IsInteger value) :
    Rereads (.number (.integer value)) := by
  rcases readNumeral_integerChars fits with ⟨numeral, read, meant⟩
  refine rereads_numeral read ?_
  intro room
  rw [meant]
  rfl

theorem rereads_real (value : Float) : Rereads (.number (.real value)) := by
  by_cases finite : value.isFinite = true
  · rcases readNumeral_data finite with ⟨numeral, read, _⟩
    have text : chars (.number (.real value)) = Number.Layout.data.chars value := if_pos finite
    refine rereads_numeral (text ▸ read) ?_
    intro room
    rw [reread, if_pos finite, rereadDouble, read, Option.bind_some]
    cases numberOf numeral <;> rfl
  · have text : chars (.number (.real value)) = chars .null := if_neg finite
    refine ⟨text ▸ rereads_null.opens, ?_⟩
    intro fuel room rest fuelled stops
    have lost : reread room (.number (.real value)) = reread room .null := if_neg finite
    rw [text] at fuelled ⊢
    rw [lost]
    exact rereads_null.reads fuel room rest fuelled stops

theorem rereads_string (value : String) : Rereads (.string value) := by
  refine .of_succ (opens_quote value) ?_
  intro fuel room rest _ _
  rcases readString_quote value rest with ⟨start, quoted, read⟩
  rw [chars, quoted, List.cons_append, readValue_string, read]
  rfl

/-! ## Lists and objects -/

/-- The items of a list are read up to its closing bracket. -/
theorem readItems_chars {first : Json} {items : List Json}
    (rereads : forall item, item ∈ first :: items -> Rereads item)
    (fuelled : first.chars.length + (itemsChars items).length ≤ fuel) :
    readItems fuel room (first.chars ++ (itemsChars items ++ after)) =
      some (rereadItems room (first :: items), after) := by
  induction items generalizing first fuel with
  | nil =>
    have closing : itemsChars [] = [']'] := rfl
    rw [closing] at fuelled ⊢
    cases fuel with
    | zero => simp at fuelled
    | succ fuel =>
      have own := (rereads first List.mem_cons_self).reads fuel room ([']'] ++ after)
        (Nat.le_of_succ_le_succ fuelled) (Or.inr (Or.inl rfl))
      rw [readItems, own]
      rfl
  | cons second later step =>
    have listed : itemsChars (second :: later) = ',' :: (second.chars ++ itemsChars later) := by
      rw [itemsChars]
    rw [listed, List.length_cons, List.length_append] at fuelled
    cases fuel with
    | zero => omega
    | succ fuel =>
      have own := (rereads first List.mem_cons_self).reads fuel room
        (',' :: (second.chars ++ (itemsChars later ++ after))) (by omega) (Or.inl rfl)
      have enough : second.chars.length + (itemsChars later).length ≤ fuel := by omega
      have others := step (fun item member => rereads item (List.mem_cons_of_mem _ member)) enough
      have comma : isSpace ',' = false := by decide
      rw [listed, List.cons_append, List.append_assoc, readItems, own]
      simp only [skipSpace_cons comma, others]
      rfl

/-- A member is read with its key, and the reading goes on behind it. -/
theorem readMembers_member (key : String) {text behind : List Char} {value : Json}
    (read : readValue fuel room text = some (value, behind)) :
    readMembers (fuel + 1) room (quote key ++ ':' :: text) =
      match skipSpace behind with
      | '\x7d' :: tail => some (some [(key, value)], tail)
      | ',' :: rest =>
        match readMembers fuel room rest with
        | some (members, tail) => some (members.map ((key, value) :: ·), tail)
        | none => none
      | _ => none := by
  rcases readString_quote key (':' :: text) with ⟨start, quoted, named⟩
  have opening : isSpace '"' = false := by decide
  have colon : isSpace ':' = false := by decide
  rw [quoted, List.cons_append, readMembers]
  simp only [skipSpace_cons opening, named, skipSpace_cons colon, read]
  rfl

/-- The members of an object are read up to its closing brace. -/
theorem readMembers_chars {key : String} {first : Json} {members : List (String × Json)}
    (rereads : forall member, member ∈ (key, first) :: members -> Rereads member.2)
    (fuelled : (quote key).length + 1 + first.chars.length + (membersChars members).length ≤ fuel) :
    readMembers fuel room
        (quote key ++ ':' :: (first.chars ++ (membersChars members ++ after))) =
      some (some (rereadMembers room ((key, first) :: members)), after) := by
  have own : Rereads first := rereads (key, first) List.mem_cons_self
  induction members generalizing key first fuel with
  | nil =>
    have closing : membersChars [] = ['\x7d'] := rfl
    rw [closing] at fuelled ⊢
    cases fuel with
    | zero => omega
    | succ fuel =>
      rw [readMembers_member key (own.reads fuel room (['\x7d'] ++ after) (by omega)
        (Or.inr (Or.inr rfl)))]
      rfl
  | cons second later step =>
    rcases second with ⟨name, second⟩
    have listed : membersChars ((name, second) :: later) =
        ',' :: (quote name ++ ':' :: (second.chars ++ membersChars later)) := by
      rw [membersChars]
    rw [listed] at fuelled ⊢
    simp only [List.length_cons, List.length_append] at fuelled
    cases fuel with
    | zero => omega
    | succ fuel =>
      have enough : (quote name).length + 1 + second.chars.length +
        (membersChars later).length ≤ fuel := by omega
      have others := step (fun member rest => rereads member (List.mem_cons_of_mem _ rest))
        enough (rereads (name, second) (List.mem_cons_of_mem _ List.mem_cons_self))
      have read := own.reads fuel room
        (',' :: (quote name ++ ':' :: (second.chars ++ (membersChars later ++ after))))
        (by omega) (Or.inl rfl)
      simp only [List.cons_append, List.append_assoc]
      rw [readMembers_member key read]
      change (match readMembers fuel room
          (quote name ++ ':' :: (second.chars ++ (membersChars later ++ after))) with
        | some (members, tail) => some (members.map ((key, first.reread room) :: ·), tail)
        | none => none) = _
      rw [others]
      rfl

theorem readValue_items {text : List Char} (opens : Opens text) :
    readValue (fuel + 1) room ('[' :: text) =
      (readItems fuel (room - 1) text).map fun found =>
        (if room = 0 then .void else .array found.1, found.2) := by
  rcases opens with ⟨char, tail, rfl, visible, notClosing, _⟩
  have bracket : isSpace '[' = false := by decide
  rw [readValue]
  simp only [↓Char.isValue, skipSpace_cons bracket, skipSpace_cons visible, List.cons.injEq,
    notClosing, false_and, imp_self, implies_true]
  cases readItems fuel (room - 1) (char :: tail) <;> rfl

theorem readValue_members {text : List Char} (opens : Opens text) {members : List (String × Json)}
    (read : readMembers fuel (room - 1) text = some (some members, rest)) :
    readValue (fuel + 1) room ('\x7b' :: text) =
      some (if room = 0 then .void else .object members, rest) := by
  rcases opens with ⟨char, tail, rfl, visible, _, notClosing⟩
  have brace : isSpace '\x7b' = false := by decide
  rw [readValue]
  simp only [↓Char.isValue, skipSpace_cons brace, skipSpace_cons visible, List.cons.injEq,
    notClosing, false_and, imp_self, implies_true, read]

/-- A list is read as expected if its items are. -/
theorem rereads_array {items : List Json} (rereads : forall item, item ∈ items -> Rereads item) :
    Rereads (.array items) := by
  cases items with
  | nil =>
    refine .of_succ ⟨'[', [']'], rfl, rfl, by decide, by decide⟩ ?_
    exact fun _ _ _ _ _ => rfl
  | cons first items =>
    have listed : chars (.array (first :: items)) = '[' :: (first.chars ++ itemsChars items) := by
      rw [chars]
    refine .of_succ ⟨'[', _, listed, rfl, by decide, by decide⟩ ?_
    intro fuel room rest fuelled _
    rw [listed, List.length_cons, List.length_append] at fuelled
    have opens := (rereads first List.mem_cons_self).opens.append (itemsChars items ++ rest)
    rw [listed, List.cons_append, List.append_assoc, readValue_items opens,
      readItems_chars rereads (Nat.le_of_succ_le_succ fuelled)]
    rfl

/-- An object is read as expected if the values of its members are. -/
theorem rereads_object {members : List (String × Json)}
    (rereads : forall member, member ∈ members -> Rereads member.2) :
    Rereads (.object members) := by
  cases members with
  | nil =>
    refine .of_succ ⟨'\x7b', ['\x7d'], rfl, rfl, by decide, by decide⟩ ?_
    exact fun _ _ _ _ _ => rfl
  | cons first members =>
    rcases first with ⟨key, first⟩
    have listed : chars (.object ((key, first) :: members)) =
        '\x7b' :: (quote key ++ ':' :: (first.chars ++ membersChars members)) := by
      rw [chars]
    refine .of_succ ⟨'\x7b', _, listed, rfl, by decide, by decide⟩ ?_
    intro fuel room rest fuelled _
    rw [listed] at fuelled
    simp only [List.length_cons, List.length_append] at fuelled
    have opens := (opens_quote key).append (':' :: (first.chars ++ (membersChars members ++ rest)))
    have enough : (quote key).length + 1 + first.chars.length +
      (membersChars members).length ≤ fuel := by omega
    simp only [listed, List.cons_append, List.append_assoc]
    rw [readValue_members opens (readMembers_chars rereads enough)]
    rfl

/-! ## Whole values -/

mutual

/-- Every sized value is read from its text as expected. -/
theorem rereads_of_sized : (value : Json) -> Sized value -> Rereads value
  | .null, _ => rereads_null
  | .bool truth, _ => rereads_bool truth
  | .number (.integer _), sized => rereads_integer sized
  | .number (.real value), _ => rereads_real value
  | .string value, _ => rereads_string value
  | .array items, sized => rereads_array (rereadItems_of_sized items sized)
  | .object members, sized => rereads_object (rereadMembers_of_sized members sized)

theorem rereadItems_of_sized : (items : List Json) -> SizedItems items ->
    forall item, item ∈ items -> Rereads item
  | [], _ => fun _ member => absurd member List.not_mem_nil
  | first :: rest, sized => fun item member => by
    rcases List.mem_cons.1 member with same | later
    · rw [same]
      exact rereads_of_sized first sized.1
    · exact rereadItems_of_sized rest sized.2 item later

theorem rereadMembers_of_sized : (members : List (String × Json)) -> SizedMembers members ->
    forall member, member ∈ members -> Rereads member.2
  | [], _ => fun _ member => absurd member List.not_mem_nil
  | (key, first) :: rest, sized => fun found member => by
    rcases List.mem_cons.1 member with same | later
    · rw [same]
      exact rereads_of_sized first sized.1
    · exact rereadMembers_of_sized rest sized.2 found later

end

/-- The text of a sized value is always read. -/
theorem ofText?_toText {value : Json} (sized : Sized value) :
    ofText? (toText value) = some (value.reread nestingLimit) := by
  have read := (rereads_of_sized value sized).reads (2 * value.chars.length + 2) nestingLimit []
    (by omega) trivial
  rw [List.append_nil] at read
  rw [ofText?, toText, String.toList_ofList, ofChars?, read]
  rfl

/-! ## Values that survive -/

theorem reread_real {value : Float} (back : ReadsBack value) (room : Nat) :
    reread room (.number (.real value)) = .number (.real value) := by
  rcases back with ⟨finite, numeral, read, meant⟩
  rw [reread, if_pos finite, rereadDouble, read, Option.bind_some, meant]

mutual

/-- A value is kept if its doubles are read back and there is room for all of
it. -/
theorem reread_eq_self : (room : Nat) -> (value : Json) -> value.depth ≤ room ->
    (forall double, double ∈ reals value -> ReadsBack double) -> value.reread room = value
  | _, .null, _, _ => rfl
  | _, .bool _, _, _ => rfl
  | _, .number (.integer _), _, _ => rfl
  | room, .number (.real value), _, legible =>
    reread_real (legible value (List.mem_singleton_self value)) room
  | _, .string _, _, _ => rfl
  | _, .void, _, _ => rfl
  | room, .array items, shallow, legible => by
    rw [depth] at shallow
    rw [reread, if_neg (by omega), rereadItems_eq_self (room - 1) items (by omega) legible]
  | room, .object members, shallow, legible => by
    rw [depth] at shallow
    rw [reread, if_neg (by omega), rereadMembers_eq_self (room - 1) members (by omega) legible]

theorem rereadItems_eq_self : (room : Nat) -> (items : List Json) -> depthItems items ≤ room ->
    (forall double, double ∈ realsOfItems items -> ReadsBack double) ->
    rereadItems room items = items
  | _, [], _, _ => rfl
  | room, first :: rest, shallow, legible => by
    rw [depthItems, Nat.max_le] at shallow
    rw [rereadItems,
      reread_eq_self room first shallow.1 fun double inside =>
        legible double (List.mem_append_left _ inside),
      rereadItems_eq_self room rest shallow.2 fun double inside =>
        legible double (List.mem_append_right _ inside)]

theorem rereadMembers_eq_self : (room : Nat) -> (members : List (String × Json)) ->
    depthMembers members ≤ room ->
    (forall double, double ∈ realsOfMembers members -> ReadsBack double) ->
    rereadMembers room members = members
  | _, [], _, _ => rfl
  | room, (key, first) :: rest, shallow, legible => by
    rw [depthMembers, Nat.max_le] at shallow
    rw [rereadMembers,
      reread_eq_self room first shallow.1 fun double inside =>
        legible double (List.mem_append_left _ inside),
      rereadMembers_eq_self room rest shallow.2 fun double inside =>
        legible double (List.mem_append_right _ inside)]

end

end SpriteStage.Json
