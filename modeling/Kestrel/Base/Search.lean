import Mathlib.Data.List.Infix
import Mathlib.Data.Nat.Find
import Mathlib.Tactic.TypeStar
import Mathlib.Tactic.Cases

/-!
# Substring search

The first and the last occurrence of a list in another one, and the longest end of a list that
begins another one. A needle whose first letter occurs nowhere in a text does not start there.
-/

namespace Search

open List Nat

variable {Letter : Type*} {needle text before after : List Letter}
  {head : Letter} {index : ℕ}

def OccursAt (needle text : List Letter) (index : ℕ) : Prop := needle <+: text.drop index

theorem le_of_occursAt (absent : head ∉ before)
    (occurs : OccursAt (head :: needle) (before ++ after) index) : before.length ≤ index := by
  by_contra inside
  have small : index < before.length := Nat.lt_of_not_le inside
  unfold OccursAt at occurs
  rw [drop_append_of_le_length (le_of_lt small), drop_eq_getElem_cons small,
    cons_append, cons_prefix_cons] at occurs
  exact absent (occurs.1 ▸ getElem_mem small)

theorem occursAt_append (needle before after : List Letter) (index : ℕ) :
    OccursAt needle (before ++ after) (before.length + index) ↔ OccursAt needle after index := by
  unfold OccursAt
  rw [drop_append, drop_eq_nil_of_le (Nat.le_add_right _ _), nil_append, Nat.add_sub_cancel_left]

section Searches

variable [DecidableEq Letter]

instance : Decidable (OccursAt needle text index) := inferInstanceAs (Decidable (_ <+: _))

/-- `indexOf`: the first occurrence of the needle. -/
def indexOf (needle text : List Letter) : Option ℕ :=
  (List.range (text.length + 1)).find? fun index => OccursAt needle text index

/-- `lastIndexOf`: the last occurrence of the needle. -/
def lastIndexOf (needle text : List Letter) : Option ℕ :=
  let index := Nat.findGreatest (OccursAt needle text) text.length
  if OccursAt needle text index then some index else none

theorem indexOf_eq_some :
    indexOf needle text = some index ↔ index ≤ text.length ∧ OccursAt needle text index ∧
      ∀ earlier < index, ¬ OccursAt needle text earlier := by
  unfold indexOf
  rw [find?_range_eq_some]
  simp only [decide_eq_true_eq, mem_range, Bool.not_eq_eq_eq_not, Bool.not_true,
    decide_eq_false_iff_not]
  constructor
  · intro found
    exact ⟨Nat.lt_succ_iff.mp found.2.1, found.1, found.2.2⟩
  · intro found
    exact ⟨found.2.1, Nat.lt_succ_iff.mpr found.1, found.2.2⟩

theorem indexOf_eq_none :
    indexOf needle text = none ↔ ∀ index ≤ text.length, ¬ OccursAt needle text index := by
  unfold indexOf
  rw [List.find?_eq_none]
  simp only [mem_range, decide_eq_true_eq, Nat.lt_succ_iff]

theorem lastIndexOf_eq_some (bounded : index ≤ text.length) (occurs : OccursAt needle text index)
    (last : ∀ later, index < later → later ≤ text.length → ¬ OccursAt needle text later) :
    lastIndexOf needle text = some index := by
  have found := findGreatest_spec bounded occurs
  have same : findGreatest (OccursAt needle text) text.length = index := by
    apply le_antisymm
    · by_contra later
      exact last _ (Nat.lt_of_not_le later) (Nat.findGreatest_le _) found
    · exact le_findGreatest bounded occurs
  unfold lastIndexOf
  rw [same]
  exact if_pos occurs

theorem lastIndexOf_le_of_eq_some (found : lastIndexOf needle text = some index) :
    index ≤ text.length ∧ OccursAt needle text index := by
  unfold lastIndexOf at found
  dsimp only at found
  split_ifs at found with occurs
  cases found
  exact ⟨findGreatest_le _, occurs⟩

theorem lastIndexOf_eq_none (absent : ∀ index ≤ text.length, ¬ OccursAt needle text index) :
    lastIndexOf needle text = none := by
  unfold lastIndexOf
  exact if_neg (absent _ (findGreatest_le _))

/-- The first occurrence behind a text that the needle's first letter does not occur in. -/
theorem indexOf_append_eq_some (absent : head ∉ before) :
    indexOf (head :: needle) (before ++ after) =
      (indexOf (head :: needle) after).map (before.length + ·) := by
  cases found : indexOf (head :: needle) after with
  | none =>
    rw [Option.map_none, indexOf_eq_none]
    rw [indexOf_eq_none] at found
    intro index bounded occurs
    obtain ⟨rest, rfl⟩ := Nat.exists_eq_add_of_le (le_of_occursAt absent occurs)
    rw [length_append] at bounded
    exact found rest (Nat.le_of_add_le_add_left bounded)
      ((occursAt_append _ before after rest).mp occurs)
  | some index =>
    rw [Option.map_some, indexOf_eq_some]
    obtain ⟨bounded, occurs, first⟩ := indexOf_eq_some.mp found
    refine ⟨?_, (occursAt_append _ before after index).mpr occurs, ?_⟩
    · rw [length_append]
      exact Nat.add_le_add_left bounded _
    · intro earlier small occurs
      obtain ⟨rest, rfl⟩ := Nat.exists_eq_add_of_le (le_of_occursAt absent occurs)
      exact first rest (Nat.lt_of_add_lt_add_left small)
        ((occursAt_append _ before after rest).mp occurs)

/-- A single letter is found behind a text without it. -/
theorem indexOf_singleton (absent : head ∉ before) :
    indexOf [head] (before ++ head :: after) = some before.length := by
  rw [indexOf_append_eq_some absent]
  have here : indexOf [head] (head :: after) = some 0 := by
    rw [indexOf_eq_some]
    refine ⟨zero_le _, ?_, fun _ small => absurd small (not_lt_zero _)⟩
    exact cons_prefix_cons.mpr ⟨rfl, nil_prefix⟩
  rw [here]
  rfl

theorem indexOf_singleton_eq_none (absent : head ∉ text) : indexOf [head] text = none := by
  rw [indexOf_eq_none]
  intro index _ occurs
  exact absent (mem_of_mem_drop (occurs.subset mem_cons_self))

theorem notMem_of_indexOf_eq_none (absent : indexOf [head] text = none) : head ∉ text := by
  intro listed
  obtain ⟨before, after, rfl⟩ := append_of_mem listed
  refine indexOf_eq_none.mp absent before.length ?_ ?_
  · rw [length_append]
    exact le_add_right _ _
  · rw [OccursAt, drop_left]
    exact cons_prefix_cons.mpr ⟨rfl, nil_prefix⟩

end Searches

end Search
