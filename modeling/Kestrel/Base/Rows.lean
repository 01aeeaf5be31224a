import Mathlib.Data.List.Nodup

/-!
# Lists of rows with distinct keys

A table as the list of its rows: a conditional update keeps their keys, and a row is found by its
key.
-/

namespace Rows

open List

variable {Row Key : Type*}

def update (rows : List Row) (test : Row → Bool) (change : Row → Row) : List Row :=
  rows.map fun row => if test row then change row else row

section Update

variable {rows : List Row} {test : Row → Bool} {change : Row → Row}

theorem mem_update {row : Row} :
    row ∈ update rows test change ↔ ∃ old ∈ rows, (if test old then change old else old) = row :=
  mem_map

theorem changed_mem_update {row : Row} (stored : row ∈ rows) (passes : test row = true) :
    change row ∈ update rows test change :=
  mem_update.mpr ⟨row, stored, if_pos passes⟩

theorem kept_mem_update {row : Row} (stored : row ∈ rows) (fails : test row = false) :
    row ∈ update rows test change :=
  mem_update.mpr ⟨row, stored, if_neg (by rw [fails]; exact Bool.false_ne_true)⟩

theorem update_eq_self (fails : rows.any test = false) : update rows test change = rows := by
  rw [any_eq_false] at fails
  refine (map_congr_left ?_).trans (map_id rows)
  intro row stored
  exact if_neg (fails row stored)

theorem map_update {column : Row → Key} (kept : ∀ row, column (change row) = column row) :
    (update rows test change).map column = rows.map column := by
  unfold update
  rw [map_map]
  apply map_congr_left
  intro row _
  by_cases passes : test row = true
  · exact (congrArg column (if_pos passes)).trans (kept row)
  · exact congrArg column (if_neg passes)

theorem filter_update {selects : Row → Bool} (kept : ∀ row, selects (change row) = selects row) :
    (update rows test change).filter selects = update (rows.filter selects) test change := by
  unfold update
  rw [filter_map]
  congr 1
  apply filter_congr
  intro row _
  by_cases passes : test row = true
  · exact (congrArg selects (if_pos passes)).trans (kept row)
  · exact congrArg selects (if_neg passes)

end Update

section Keys

variable [DecidableEq Key] {key : Row → Key} {rows : List Row}

theorem find?_eq_some_iff (nodup : (rows.map key).Nodup) {value : Key} {row : Row} :
    rows.find? (fun other => key other = value) = some row ↔ row ∈ rows ∧ key row = value := by
  constructor
  · intro found
    have selected := find?_some found
    exact ⟨mem_of_find?_eq_some found, of_decide_eq_true selected⟩
  · intro known
    obtain ⟨stored, rfl⟩ := known
    cases found : rows.find? fun other => key other = key row with
    | none =>
      rw [find?_eq_none] at found
      exact absurd (decide_eq_true rfl) (found row stored)
    | some other =>
      have selected := find?_some found
      have same := of_decide_eq_true selected
      rw [inj_on_of_nodup_map nodup (mem_of_find?_eq_some found) stored same]

omit [DecidableEq Key] in
/-- The keys of rows that were looked up by them are among the keys asked for, in their order. -/
theorem map_filterMap_sublist {find : Key → Option Row}
    (same : ∀ value row, find value = some row → key row = value) (values : List Key) :
    ((values.filterMap find).map key).Sublist values := by
  induction values with
  | nil => exact Sublist.refl []
  | cons value values ih =>
    cases found : find value with
    | none =>
      rw [filterMap_cons_none found]
      exact ih.cons value
    | some row =>
      rw [filterMap_cons_some found, map_cons, same value row found]
      exact ih.cons_cons value

omit [DecidableEq Key] in
theorem nodup_append {row : Row} (nodup : (rows.map key).Nodup)
    (fresh : ∀ other ∈ rows, key other ≠ key row) : ((rows ++ [row]).map key).Nodup := by
  rw [List.map_append, List.map_singleton, List.nodup_append]
  refine ⟨nodup, nodup_singleton _, ?_⟩
  intro value stored other single same
  obtain ⟨old, member, rfl⟩ := mem_map.mp stored
  rw [mem_singleton.mp single] at same
  exact fresh old member same

end Keys

end Rows
