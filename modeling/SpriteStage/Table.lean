namespace SpriteStage

/-!
# Finite tables

A table lists rows of a key and a value, and no key has two rows.  The order
of the rows is the order in which the table is enumerated; looking a key up
does not depend on it.  Tables hold the programs of a stage (one row per
actor) and the progress of a run (one row per actor and block).

The lemmas say what each operation does to the view `get?`.
-/

/-- Rows of a key and a value, each key in at most one row. -/
structure Table (Key Value : Type) where
  rows : List (Key × Value)
  distinct : (rows.map Prod.fst).Nodup

namespace Table

variable {Key Value : Type}

def empty : Table Key Value := ⟨[], List.nodup_nil⟩

instance : Inhabited (Table Key Value) := ⟨empty⟩

def keys (table : Table Key Value) : List Key := table.rows.map Prod.fst

def size (table : Table Key Value) : Nat := table.rows.length

def filterKeys (table : Table Key Value) (keep : Key -> Bool) : Table Key Value where
  rows := table.rows.filter (fun row => keep row.1)
  distinct := List.Nodup.sublist (List.Sublist.map _ (List.filter_sublist)) table.distinct

section Lookup

variable [DecidableEq Key]

/-- The value of the first row with the key, among plain rows. -/
def lookup (wanted : Key) : List (Key × Value) -> Option Value
  | [] => none
  | (key, value) :: rest => if key = wanted then some value else lookup wanted rest

/-- Replace the row of a key, or append a row when there is none. -/
def replace (wanted : Key) (value : Value) : List (Key × Value) -> List (Key × Value)
  | [] => [(wanted, value)]
  | (key, old) :: rest =>
    if key = wanted then (wanted, value) :: rest else (key, old) :: replace wanted value rest

theorem mem_keys_replace (wanted other : Key) (value : Value) (rows : List (Key × Value)) :
    other ∈ (replace wanted value rows).map Prod.fst <->
      other = wanted ∨ other ∈ rows.map Prod.fst := by
  induction rows with
  | nil => simp [replace]
  | cons row rest step =>
    obtain ⟨key, old⟩ := row
    unfold replace
    by_cases same : key = wanted
    · simp [same]
    · rw [if_neg same]
      simp only [List.map_cons, List.mem_cons, step]
      constructor
      · rintro (first | second | third)
        · exact Or.inr (Or.inl first)
        · exact Or.inl second
        · exact Or.inr (Or.inr third)
      · rintro (first | second | third)
        · exact Or.inr (Or.inl first)
        · exact Or.inl second
        · exact Or.inr (Or.inr third)

theorem nodup_replace (wanted : Key) (value : Value) (rows : List (Key × Value))
    (distinct : (rows.map Prod.fst).Nodup) :
    ((replace wanted value rows).map Prod.fst).Nodup := by
  induction rows with
  | nil => simp [replace]
  | cons row rest step =>
    obtain ⟨key, old⟩ := row
    simp only [List.map_cons, List.nodup_cons] at distinct
    unfold replace
    by_cases same : key = wanted
    · subst same
      simpa using distinct
    · rw [if_neg same]
      simp only [List.map_cons, List.nodup_cons, mem_keys_replace]
      exact ⟨fun hit => hit.elim same distinct.1, step distinct.2⟩

def get? (table : Table Key Value) (key : Key) : Option Value := lookup key table.rows

def contains (table : Table Key Value) (key : Key) : Bool := (table.get? key).isSome

/-- Give a key a value.  An existing row keeps its place; a new one comes last. -/
def set (table : Table Key Value) (key : Key) (value : Value) : Table Key Value :=
  ⟨replace key value table.rows, nodup_replace key value table.rows table.distinct⟩

def erase (table : Table Key Value) (key : Key) : Table Key Value :=
  table.filterKeys (fun other => !decide (other = key))

theorem lookup_replace (wanted other : Key) (value : Value) (rows : List (Key × Value)) :
    lookup other (replace wanted value rows) =
      if other = wanted then some value else lookup other rows := by
  induction rows with
  | nil =>
    by_cases same : other = wanted
    · simp [replace, lookup, same]
    · simp [replace, lookup, same, Ne.symm same]
  | cons row rest step =>
    obtain ⟨key, old⟩ := row
    unfold replace
    by_cases replaced : key = wanted
    · subst replaced
      by_cases same : other = key
      · simp [lookup, same]
      · simp [lookup, same, Ne.symm same]
    · rw [if_neg replaced]
      unfold lookup
      by_cases found : key = other
      · subst found
        simp [replaced]
      · simp [found, step]

theorem lookup_filter (keep : Key -> Bool) (wanted : Key) (rows : List (Key × Value)) :
    lookup wanted (rows.filter (fun row => keep row.1)) =
      if keep wanted then lookup wanted rows else none := by
  induction rows with
  | nil => simp [lookup]
  | cons row rest step =>
    obtain ⟨key, value⟩ := row
    by_cases kept : keep key
    · rw [List.filter_cons_of_pos (by simpa using kept)]
      unfold lookup
      by_cases found : key = wanted
      · subst found
        simp [kept]
      · simp [found, step]
    · rw [List.filter_cons_of_neg (by simpa using kept), step]
      by_cases found : key = wanted
      · subst found
        simp [kept]
      · simp [lookup, found]

@[simp] theorem get?_empty (key : Key) : (empty : Table Key Value).get? key = none := rfl

@[simp] theorem get?_set (table : Table Key Value) (key other : Key) (value : Value) :
    (table.set key value).get? other = if other = key then some value else table.get? other :=
  lookup_replace key other value table.rows

@[simp] theorem get?_filterKeys (table : Table Key Value) (keep : Key -> Bool) (key : Key) :
    (table.filterKeys keep).get? key = if keep key then table.get? key else none :=
  lookup_filter keep key table.rows

@[simp] theorem get?_erase (table : Table Key Value) (key other : Key) :
    (table.erase key).get? other = if other = key then none else table.get? other := by
  unfold erase
  rw [get?_filterKeys]
  by_cases same : other = key <;> simp [same]

end Lookup

end Table

end SpriteStage
