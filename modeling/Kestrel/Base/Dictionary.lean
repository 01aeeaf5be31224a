import Kestrel.Base.Rows
import Mathlib.Data.List.Perm.Basic

/-!
# Dictionaries of rows that carry their own key

A dictionary keeps its rows in the order in which their keys were first assigned.
-/

/-- Rows whose keys are distinct. -/
structure Dictionary {Row Key : Type*} (key : Row → Key) where
  rows : List Row
  nodup : (rows.map key).Nodup

namespace Dictionary

open List

variable {Row Key : Type*} {key : Row → Key}

/-- The dictionary without rows. -/
def empty : Dictionary key := ⟨[], List.nodup_nil⟩

variable [DecidableEq Key] (dictionary : Dictionary key)

def get (value : Key) : Option Row := dictionary.rows.find? fun row => key row = value

/-- Remove the row of a key, if there is one. -/
def erase (value : Key) : Dictionary key where
  rows := dictionary.rows.filter fun row => ¬ key row = value
  nodup := dictionary.nodup.sublist (List.filter_sublist.map key)

def put (row : Row) : Dictionary key where
  rows :=
    if dictionary.rows.any fun old => key old = key row then
      Rows.update dictionary.rows (fun old => key old = key row) fun _ => row
    else dictionary.rows ++ [row]
  nodup := by
    split_ifs with present
    · have same :
          (Rows.update dictionary.rows (fun old => key old = key row) fun _ => row).map key =
            dictionary.rows.map key := by
        rw [Rows.update, List.map_map]
        refine List.map_congr_left ?_
        intro old _
        by_cases replaced : key old = key row
        all_goals simp [replaced]
      rw [same]
      exact dictionary.nodup
    · refine Rows.nodup_append dictionary.nodup ?_
      simpa using present

variable {dictionary} {value : Key} {row : Row}

theorem get_eq_some : dictionary.get value = some row ↔ row ∈ dictionary.rows ∧ key row = value :=
  Rows.find?_eq_some_iff dictionary.nodup

theorem get_eq_none : dictionary.get value = none ↔ ∀ row ∈ dictionary.rows, key row ≠ value := by
  simp [get]

theorem get_of_mem (member : row ∈ dictionary.rows) : dictionary.get (key row) = some row :=
  get_eq_some.mpr ⟨member, rfl⟩

theorem mem_of_get (found : dictionary.get value = some row) : row ∈ dictionary.rows :=
  (get_eq_some.mp found).1

theorem key_of_get (found : dictionary.get value = some row) : key row = value :=
  (get_eq_some.mp found).2

@[simp] theorem get_empty : (empty : Dictionary key).get value = none := rfl

/-! ## Removal -/

theorem mem_erase :
    row ∈ (dictionary.erase value).rows ↔ row ∈ dictionary.rows ∧ key row ≠ value := by
  simp [erase]

@[simp] theorem get_erase_self : (dictionary.erase value).get value = none := by
  rw [get_eq_none]
  intro row member
  exact (mem_erase.mp member).2

theorem get_erase_of_ne {other : Key} (distinct : other ≠ value) :
    (dictionary.erase value).get other = dictionary.get other := by
  apply Option.ext
  intro row
  rw [get_eq_some, get_eq_some, mem_erase, and_assoc]
  constructor
  · rintro ⟨member, _, same⟩
    exact ⟨member, same⟩
  · rintro ⟨member, rfl⟩
    exact ⟨member, distinct, rfl⟩

/-- A stored row stands beside the others. -/
theorem rows_perm_of_get (found : dictionary.get value = some row) :
    dictionary.rows.Perm (row :: (dictionary.erase value).rows) := by
  classical
  obtain ⟨member, rfl⟩ := get_eq_some.mp found
  refine (perm_ext_iff_of_nodup (Nodup.of_map key dictionary.nodup) ?_).mpr ?_
  · refine nodup_cons.mpr ⟨?_, Nodup.of_map key (dictionary.erase (key row)).nodup⟩
    intro kept
    exact (mem_erase.mp kept).2 rfl
  · intro other
    rw [mem_cons, mem_erase]
    constructor
    · intro stored
      by_cases same : key other = key row
      · exact .inl (inj_on_of_nodup_map dictionary.nodup stored member same)
      · exact .inr ⟨stored, same⟩
    · rintro (rfl | ⟨stored, _⟩)
      · exact member
      · exact stored

theorem erase_of_absent (absent : dictionary.get value = none) :
    (dictionary.erase value).rows = dictionary.rows := by
  rw [get_eq_none] at absent
  exact filter_eq_self.mpr (by simpa using absent)

/-! ## Assignment -/

theorem mem_put {other : Row} : other ∈ (dictionary.put row).rows ↔
      other = row ∨ other ∈ dictionary.rows ∧ key other ≠ key row := by
  unfold put
  split_ifs with present
  · rw [Rows.mem_update]
    constructor
    · rintro ⟨old, stored, rfl⟩
      by_cases same : key old = key row
      · simp [same]
      · simp [same, stored]
    · rintro (rfl | ⟨stored, distinct⟩)
      · obtain ⟨old, stored, same⟩ := any_eq_true.mp present
        exact ⟨old, stored, if_pos same⟩
      · exact ⟨other, stored, if_neg (by simpa using distinct)⟩
  · rw [mem_append, mem_singleton, or_comm]
    refine or_congr_right ?_
    constructor
    · intro stored
      refine ⟨stored, ?_⟩
      intro same
      exact present (any_eq_true.mpr ⟨other, stored, decide_eq_true same⟩)
    · exact And.left

@[simp] theorem get_put_self : (dictionary.put row).get (key row) = some row :=
  get_eq_some.mpr ⟨mem_put.mpr (.inl rfl), rfl⟩

theorem get_put_of_ne (distinct : value ≠ key row) :
    (dictionary.put row).get value = dictionary.get value := by
  apply Option.ext
  intro other
  rw [get_eq_some, get_eq_some, mem_put]
  constructor
  · rintro ⟨rfl | ⟨stored, _⟩, same⟩
    · exact absurd same.symm distinct
    · exact ⟨stored, same⟩
  · rintro ⟨stored, rfl⟩
    exact ⟨.inr ⟨stored, distinct⟩, rfl⟩

theorem rows_put_perm :
    (dictionary.put row).rows.Perm (row :: (dictionary.erase (key row)).rows) := by
  classical
  refine (perm_ext_iff_of_nodup (Nodup.of_map key (dictionary.put row).nodup) ?_).mpr ?_
  · refine nodup_cons.mpr ⟨?_, Nodup.of_map key (dictionary.erase (key row)).nodup⟩
    intro kept
    exact (mem_erase.mp kept).2 rfl
  · intro other
    rw [mem_cons, mem_put, mem_erase]

end Dictionary
