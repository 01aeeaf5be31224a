import Mathlib.Data.List.Pairwise
import Mathlib.Data.List.Nodup

/-!
# Pages of a sorted list

A page holds the first rows after a cursor, and the next page's cursor is its last row. Paging
through rows in a strict order shows each of them once.
-/

namespace Keyset

open List

variable {α : Type*} (precedes : α → α → Bool)

/-- The rows after a cursor, at most `size` of them. -/
def query (rows : List α) (size : ℕ) (cursor : Option α) : List α :=
  (match cursor with
    | none => rows
    | some last => rows.filter (precedes last)).take size

/-- The pages that at most `limit` fetches show, each after the last row of the one before. -/
def pages (fetch : Option α → List α) : (limit : ℕ) → (cursor : Option α) → List (List α)
  | 0, _ => []
  | limit + 1, cursor =>
    match (fetch cursor).getLast? with
    | none => []
    | some last => fetch cursor :: pages fetch limit (some last)

variable {precedes}

theorem filter_append_of_getLast {shown rest : List α} {last : α}
    (asymmetric : ∀ left right, precedes left right = true → precedes right left = false)
    (sorted : (shown ++ rest).Pairwise (precedes · ·)) (isLast : shown.getLast? = some last) :
    (shown ++ rest).filter (precedes last) = rest := by
  obtain ⟨sortedShown, _, across⟩ := pairwise_append.mp sorted
  obtain ⟨earlier, rfl⟩ := getLast?_eq_some_iff.mp isLast
  have irreflexive : precedes last last = false := by
    cases self : precedes last last with
    | false => rfl
    | true => exact self.symm.trans (asymmetric _ _ self)
  have none : (earlier ++ [last]).filter (precedes last) = [] := by
    refine filter_eq_nil_iff.mpr fun row member => ?_
    rw [Bool.not_eq_true]
    rcases mem_append.mp member with before | only
    · exact asymmetric _ _ ((pairwise_append.mp sortedShown).2.2 row before last
        (mem_singleton.mpr rfl))
    · rw [mem_singleton.mp only]
      exact irreflexive
  have all : rest.filter (precedes last) = rest :=
    filter_eq_self.mpr fun row member =>
      across last (mem_append_right _ (mem_singleton.mpr rfl)) row member
  rw [filter_append, none, all, nil_append]

theorem query_getLast {shown rest : List α} {size : ℕ}
    (asymmetric : ∀ left right, precedes left right = true → precedes right left = false)
    (sorted : (shown ++ rest).Pairwise (precedes · ·)) :
    query precedes (shown ++ rest) size shown.getLast? = rest.take size := by
  unfold query
  cases isLast : shown.getLast? with
  | none => rw [getLast?_eq_none_iff.mp isLast, nil_append]
  | some last => exact congrArg _ (filter_append_of_getLast asymmetric sorted isLast)

/-- Paging on from the rows shown so far shows the rest, once and in order. -/
theorem flatten_pages_getLast {size : ℕ} (positive : 0 < size)
    (asymmetric : ∀ left right, precedes left right = true → precedes right left = false)
    (limit : ℕ) (shown rest : List α) (sorted : (shown ++ rest).Pairwise (precedes · ·))
    (enough : rest.length ≤ limit) :
    (pages (query precedes (shown ++ rest) size) limit shown.getLast?).flatten = rest := by
  induction limit generalizing shown rest with
  | zero =>
    rw [length_eq_zero_iff.mp (Nat.le_zero.mp enough)]
    rfl
  | succ limit ih =>
    unfold pages
    rw [query_getLast asymmetric sorted]
    cases isLast : (rest.take size).getLast? with
    | none =>
      rcases take_eq_nil_iff.mp (getLast?_eq_none_iff.mp isLast) with zero | empty
      · exact absurd zero (Nat.ne_of_gt positive)
      · rw [empty]
        rfl
    | some last =>
      have next : (shown ++ rest.take size).getLast? = some last := by
        rw [getLast?_append, isLast]
        rfl
      have parts : shown ++ rest = (shown ++ rest.take size) ++ rest.drop size := by
        rw [append_assoc, take_append_drop]
      have shorter : (rest.drop size).length ≤ limit := by
        rw [length_drop]
        omega
      rw [flatten_cons, ← next, parts, ih _ _ (parts ▸ sorted) shorter, take_append_drop]

/-- Paging through sorted rows shows each of them once and in order, whatever the size of the
pages. -/
theorem flatten_pages {rows : List α} {size limit : ℕ} (positive : 0 < size)
    (asymmetric : ∀ left right, precedes left right = true → precedes right left = false)
    (sorted : rows.Pairwise (precedes · ·)) (enough : rows.length ≤ limit) :
    (pages (query precedes rows size) limit none).flatten = rows :=
  flatten_pages_getLast positive asymmetric limit [] rows sorted enough

section Stability

/-- Two members of a list without duplicates stand in one order only. -/
theorem not_sublist_swap {rows : List α} (nodup : rows.Nodup) {left right : α}
    (forward : [left, right].Sublist rows) : ¬ [right, left].Sublist rows := by
  induction rows with
  | nil => cases forward
  | cons head rows ih =>
    obtain ⟨fresh, nodup⟩ := nodup_cons.mp nodup
    intro backward
    cases forward with
    | cons _ forward =>
      cases backward with
      | cons _ backward => exact ih nodup forward backward
      | cons_cons _ single =>
        exact fresh (forward.subset (mem_cons_of_mem _ (mem_singleton.mpr rfl)))
    | cons_cons _ single =>
      cases backward with
      | cons _ backward =>
        exact fresh (backward.subset (mem_cons_of_mem _ (mem_singleton.mpr rfl)))
      | cons_cons _ single' => exact fresh (single.subset (mem_singleton.mpr rfl))

/-- A stable sort by a second key keeps the order of the first where the second key ties. -/
theorem pairwise_mergeSort_of_pairwise {le : α → α → Bool} {before : α → α → Prop} {rows : List α}
    (trans : ∀ left middle right, le left middle = true → le middle right = true →
      le left right = true)
    (total : ∀ left right, (le left right || le right left) = true)
    (nodup : rows.Nodup) (sorted : rows.Pairwise before) :
    (rows.mergeSort le).Pairwise
      fun left right => le left right = true ∧ (le right left = true → before left right) := by
  have permuted := mergeSort_perm rows le
  refine pairwise_iff_forall_sublist.mpr fun {left right} pair => ?_
  have ordered := pairwise_iff_forall_sublist.mp (pairwise_mergeSort trans total rows) pair
  refine ⟨ordered, fun tied => ?_⟩
  have sortedNodup := permuted.nodup_iff.mpr nodup
  have distinct : left ≠ right := by
    rintro rfl
    exact absurd (pairwise_iff_forall_sublist.mp sortedNodup pair) (fun different =>
      different rfl)
  have leftMember := permuted.mem_iff.mp (pair.subset mem_cons_self)
  have rightMember := permuted.mem_iff.mp (pair.subset (mem_cons_of_mem _ (mem_singleton.mpr rfl)))
  -- one of the two stood first, and a tie leaves it there
  let either first second := [first, second].Sublist rows ∨ [second, first].Sublist rows
  have symmetric : Std.Symm either := ⟨fun _ _ => Or.symm⟩
  have related : rows.Pairwise either :=
    pairwise_iff_forall_sublist.mpr fun kept => .inl kept
  rcases related.forall leftMember rightMember distinct with kept | swapped
  · exact pairwise_iff_forall_sublist.mp sorted kept
  · exact absurd (pair_sublist_mergeSort trans total tied swapped)
      (not_sublist_swap sortedNodup pair)

end Stability

end Keyset
