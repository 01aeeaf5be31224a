import Kestrel.Base.Except

/-!
# Three-way merges

Two sides start from one baseline. A value follows the side that changed it, and the merge of a whole
table settles one key after the other.
-/

namespace ThreeWay

open List Except

section Choice

variable {Value : Type*} {current baseline outcome first second : Value}

/-- Both sides changed the value, and not to the same one. -/
def Conflict (current baseline outcome : Value) : Prop :=
  outcome ≠ baseline ∧ current ≠ baseline ∧ current ≠ outcome

theorem Conflict.symm (conflict : Conflict current baseline outcome) :
    Conflict outcome baseline current :=
  ⟨conflict.2.1, conflict.1, Ne.symm conflict.2.2⟩

theorem not_conflict_self : ¬ Conflict outcome baseline outcome :=
  fun conflict => conflict.2.2 rfl

variable [DecidableEq Value]

/-- The outcome's value where it differs from the baseline's, and the current one elsewhere. -/
def choice (current baseline outcome : Value) : Value :=
  if outcome = baseline then current else outcome

theorem choice_choice :
    choice (choice current baseline outcome) baseline outcome = choice current baseline outcome := by
  unfold choice
  split_ifs <;> rfl

theorem choice_comm (free : ¬ Conflict first baseline second) :
    choice (choice current baseline first) baseline second =
      choice (choice current baseline second) baseline first := by
  unfold Conflict at free
  unfold choice
  split_ifs with right left left
  · rfl
  · rfl
  · rfl
  · by_contra distinct
    exact free ⟨right, left, fun same => distinct same.symm⟩

/-- A merged value is in conflict with no third side that neither of its sides was. -/
theorem not_conflict_of_choice (left : ¬ Conflict current baseline second)
    (free : ¬ Conflict first baseline second) :
    ¬ Conflict (choice current baseline first) baseline second := by
  unfold choice
  split_ifs
  · exact left
  · exact free

end Choice

section Fold

variable {State Item Key Value Error : Type*} [DecidableEq Key] [DecidableEq Value]

/-- **A fold whose every step settles one key settles them all.** -/
theorem fold {step : State → Item → Except Error State} {items : List Item} (key : Item → Key)
    (look : State → Key → Value) (current baseline outcome : Key → Value)
    (settles : ∀ item ∈ items, ∀ state next, look state (key item) = current (key item) →
      step state item = .ok next →
      ¬ Conflict (current (key item)) (baseline (key item)) (outcome (key item)) ∧
        ∀ other, look next other =
          if other = key item then
            choice (current other) (baseline other) (outcome other)
          else look state other)
    (distinct : (items.map key).Nodup)
    (others : ∀ other, other ∉ items.map key → outcome other = baseline other)
    {before after : State} (initial : ∀ other, look before other = current other)
    (folded : items.foldlM step before = .ok after) (other : Key) :
    ¬ Conflict (current other) (baseline other) (outcome other) ∧
      look after other = choice (current other) (baseline other) (outcome other) := by
  have settled : (∀ other ∈ items.map key,
        ¬ Conflict (current other) (baseline other) (outcome other)) ∧
      ∀ other, look after other =
        if other ∈ items.map key then choice (current other) (baseline other) (outcome other)
        else current other := by
    refine @foldlM_induction _ _ _ _ (fun processed state =>
      (∀ other ∈ processed.map key,
        ¬ Conflict (current other) (baseline other) (outcome other)) ∧
      ∀ other, look state other =
        if other ∈ processed.map key then choice (current other) (baseline other) (outcome other)
        else current other) _ _ ?_ ⟨by simp, by simpa using initial⟩ _ folded
    intro processed item rest state next split _ held stepped
    obtain ⟨free, looked⟩ := held
    have fresh : key item ∉ processed.map key := by
      rw [split, map_append, nodup_append] at distinct
      exact fun member => distinct.2.2 _ member _ mem_cons_self rfl
    have unsettled : look state (key item) = current (key item) := by
      rw [looked, if_neg fresh]
    obtain ⟨agrees, settled⟩ := settles item (by simp [split]) state next unsettled stepped
    refine ⟨?_, ?_⟩
    · intro other member
      rw [map_append, mem_append] at member
      obtain member | last := member
      · exact free other member
      · rw [mem_singleton.mp last]
        exact agrees
    · intro other
      rw [settled, looked]
      by_cases same : other = key item
      · simp [same]
      · simp [same]
  by_cases named : other ∈ items.map key
  · exact ⟨settled.1 other named, (settled.2 other).trans (if_pos named)⟩
  · have same := others other named
    exact ⟨fun conflict => conflict.1 same,
      (settled.2 other).trans ((if_neg named).trans (if_pos same).symm)⟩

end Fold

end ThreeWay
