import Mathlib.Data.List.Nodup
import SpriteStage.Table

namespace SpriteStage

/-!
# Rows of a table

Keys are distinct, so a table has a row just when looking its key up finds the
value of the row.
-/

namespace Table

variable {Key Value : Type} [DecidableEq Key]

theorem mem_of_lookup {wanted : Key} {value : Value} {rows : List (Key × Value)}
    (found : lookup wanted rows = some value) : (wanted, value) ∈ rows := by
  induction rows with
  | nil => cases found
  | cons row rest step =>
    rcases row with ⟨key, own⟩
    rw [lookup] at found
    by_cases same : key = wanted
    · rw [if_pos same, Option.some.injEq] at found
      rw [same, found]
      exact List.mem_cons_self
    · rw [if_neg same] at found
      exact List.mem_cons_of_mem _ (step found)

theorem lookup_of_mem {wanted : Key} {value : Value} {rows : List (Key × Value)}
    (distinct : (rows.map Prod.fst).Nodup) (member : (wanted, value) ∈ rows) :
    lookup wanted rows = some value := by
  induction rows with
  | nil => exact absurd member List.not_mem_nil
  | cons row rest step =>
    rcases row with ⟨key, own⟩
    rw [List.map_cons, List.nodup_cons] at distinct
    rw [lookup]
    rcases List.mem_cons.1 member with same | later
    · rw [Prod.mk.injEq] at same
      rw [if_pos same.1.symm, same.2]
    · have different : key ≠ wanted := by
        rintro rfl
        exact distinct.1 (List.mem_map.2 ⟨_, later, rfl⟩)
      rw [if_neg different]
      exact step distinct.2 later

theorem lookup_append (wanted : Key) (first second : List (Key × Value)) :
    lookup wanted (first ++ second) = (lookup wanted first).or (lookup wanted second) := by
  induction first with
  | nil => rfl
  | cons row rest step =>
    rcases row with ⟨key, own⟩
    rw [List.cons_append, lookup, lookup, step]
    by_cases same : key = wanted
    · rw [if_pos same, if_pos same, Option.some_or]
    · rw [if_neg same, if_neg same]

/-- Rows of distinct keys can be looked up in any order. -/
theorem lookup_perm {first second : List (Key × Value)} (distinct : (first.map Prod.fst).Nodup)
    (same : first.Perm second) (wanted : Key) : lookup wanted first = lookup wanted second := by
  have secondDistinct : (second.map Prod.fst).Nodup := (same.map Prod.fst).nodup_iff.1 distinct
  apply Option.ext
  intro value
  constructor
  · exact fun found => lookup_of_mem secondDistinct (same.mem_iff.1 (mem_of_lookup found))
  · exact fun found => lookup_of_mem distinct (same.mem_iff.2 (mem_of_lookup found))

/-- Rows of distinct keys in which everything is found alike are the same rows
up to their order. -/
theorem perm_of_lookup {first second : List (Key × Value)}
    (firstDistinct : (first.map Prod.fst).Nodup) (secondDistinct : (second.map Prod.fst).Nodup)
    (same : forall wanted, lookup wanted first = lookup wanted second) : first.Perm second := by
  rw [List.perm_ext_iff_of_nodup (.of_map _ firstDistinct) (.of_map _ secondDistinct)]
  rintro ⟨key, value⟩
  constructor
  · exact fun member => mem_of_lookup ((same key).symm.trans (lookup_of_mem firstDistinct member))
  · exact fun member => mem_of_lookup ((same key).trans (lookup_of_mem secondDistinct member))

theorem length_replace {wanted : Key} {value : Value} {rows : List (Key × Value)}
    (absent : lookup wanted rows = none) : (replace wanted value rows).length = rows.length + 1 := by
  induction rows with
  | nil => rfl
  | cons row rest step =>
    rcases row with ⟨key, own⟩
    rw [lookup] at absent
    by_cases same : key = wanted
    · rw [if_pos same] at absent
      cases absent
    · rw [if_neg same] at absent
      rw [replace, if_neg same, List.length_cons, List.length_cons, step absent]

theorem size_set_of_absent {table : Table Key Value} {key : Key} (value : Value)
    (absent : table.get? key = none) : (table.set key value).size = table.size + 1 :=
  length_replace absent

theorem mem_rows_iff {table : Table Key Value} {key : Key} {value : Value} :
    (key, value) ∈ table.rows <-> table.get? key = some value := by
  constructor
  · exact lookup_of_mem table.distinct
  · exact mem_of_lookup

end Table

end SpriteStage
