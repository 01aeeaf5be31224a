import Mathlib.Data.List.Nodup
import Mathlib.Logic.Function.Basic

/-!
# Finite tables in insertion order

A table maps keys to rows and remembers the order in which its keys were first inserted.
-/

/-- A finite map together with the order of insertion of its keys. -/
structure Table (Key Row : Type*) where
  keys : List Key
  row : Key → Option Row
  mem_keys : ∀ key, key ∈ keys ↔ row key ≠ none
  nodup : keys.Nodup

namespace Table

open Option

variable {Key Row : Type*}

/-- The table without rows. -/
def empty : Table Key Row where
  keys := []
  row := fun _ => none
  mem_keys := fun key => by simp only [List.not_mem_nil, ne_eq, not_true_eq_false]
  nodup := List.nodup_nil

/-- A pointwise change of the rows that removes none. -/
def adjust (table : Table Key Row) (change : Key → Row → Row) : Table Key Row where
  keys := table.keys
  row := fun key => (table.row key).map (change key)
  mem_keys := fun key => by
    rw [table.mem_keys, ne_eq, ne_eq, Option.map_eq_none_iff]
  nodup := table.nodup

def keep (table : Table Key Row) (test : Key → Row → Bool) : Table Key Row where
  keys := table.keys.filter fun key => (table.row key).any (test key)
  row := fun key => (table.row key).filter (test key)
  mem_keys := fun key => by
    rw [List.mem_filter, table.mem_keys]
    cases table.row key with
    | none => simp only [ne_eq, not_true_eq_false, false_and, Option.filter_none]
    | some row =>
      cases kept : test key row with
      | false =>
        simp only [Option.any_some, kept, Bool.false_eq_true, and_false,
          Option.filter_some_neg, ne_eq, not_true_eq_false]
      | true =>
        simp [Option.any_some, kept, Option.filter_some_pos, ne_eq, reduceCtorEq, not_false_eq_true]
  nodup := table.nodup.filter _

/-- The rows with their keys, in insertion order. -/
def rows (table : Table Key Row) : List (Key × Row) :=
  table.keys.filterMap fun key => (table.row key).map fun row => (key, row)

@[simp] theorem row_empty (key : Key) : (empty : Table Key Row).row key = none := rfl

@[simp] theorem row_adjust (table : Table Key Row) (change : Key → Row → Row) (key : Key) :
    (table.adjust change).row key = (table.row key).map (change key) := rfl

@[simp] theorem row_keep (table : Table Key Row) (test : Key → Row → Bool) (key : Key) :
    (table.keep test).row key = (table.row key).filter (test key) := rfl

theorem row_keep_key (table : Table Key Row) (test : Key → Prop) [DecidablePred test] (key : Key) :
    (table.keep fun key _ => test key).row key = if test key then table.row key else none := by
  rw [row_keep]
  cases table.row key with
  | none => rw [filter_none, ite_self]
  | some row =>
    split_ifs with kept
    · exact filter_some_pos (decide_eq_true kept)
    · exact filter_some_neg (decide_eq_false kept)

variable {table : Table Key Row} {key : Key}

theorem mem_keys_of_row {row : Row} (stored : table.row key = some row) : key ∈ table.keys := by
  rw [table.mem_keys, stored]
  exact some_ne_none row

theorem row_eq_none (absent : key ∉ table.keys) : table.row key = none := by
  rw [table.mem_keys] at absent
  exact not_not.mp absent

theorem mem_rows {row : Row} : (key, row) ∈ table.rows ↔ table.row key = some row := by
  unfold rows
  rw [List.mem_filterMap]
  constructor
  · rintro ⟨other, _, found⟩
    obtain ⟨stored, present, same⟩ := map_eq_some_iff.mp found
    cases same
    exact present
  · intro stored
    exact ⟨key, mem_keys_of_row stored, by rw [stored]; rfl⟩

theorem nodup_rows (table : Table Key Row) : table.rows.Nodup := by
  unfold rows
  refine List.Nodup.filterMap ?_ table.nodup
  intro key other row found found'
  obtain ⟨_, _, rfl⟩ := map_eq_some_iff.mp found
  obtain ⟨_, _, same⟩ := map_eq_some_iff.mp found'
  exact (Prod.mk.inj same).1.symm

section Insertion

variable [DecidableEq Key]

def insert (table : Table Key Row) (key : Key) (row : Row) : Table Key Row where
  keys := if key ∈ table.keys then table.keys else table.keys ++ [key]
  row := Function.update table.row key (some row)
  mem_keys := fun other => by
    by_cases same : other = key
    · subst other
      simp only [Function.update_self, ne_eq, reduceCtorEq, not_false_eq_true, iff_true]
      split_ifs with present
      · exact present
      · exact List.mem_append_right _ (List.mem_singleton.mpr rfl)
    · rw [Function.update_of_ne same, ← table.mem_keys]
      split_ifs
      · exact Iff.rfl
      · simp [List.mem_append, same, or_false]
  nodup := by
    split_ifs with present
    · exact table.nodup
    · refine List.nodup_append.mpr ⟨table.nodup, List.nodup_singleton key, ?_⟩
      intro first member second single same
      rw [List.mem_singleton] at single
      subst single
      subst same
      exact present member

@[simp] theorem row_insert_self (table : Table Key Row) (key : Key) (row : Row) :
    (table.insert key row).row key = some row := by
  unfold insert
  exact Function.update_self key (some row) table.row

theorem row_insert_of_ne (table : Table Key Row) {key other : Key} (row : Row)
    (distinct : other ≠ key) : (table.insert key row).row other = table.row other := by
  unfold insert
  exact Function.update_of_ne distinct (some row) table.row

theorem row_insert (table : Table Key Row) (key other : Key) (row : Row) :
    (table.insert key row).row other = if other = key then some row else table.row other := by
  by_cases same : other = key
  · subst other
    simp only [row_insert_self, ↓reduceIte]
  · simp only [row_insert_of_ne table row same, same, ↓reduceIte]

end Insertion

end Table
