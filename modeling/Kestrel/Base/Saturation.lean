import Mathlib.Data.List.Basic
import Mathlib.Order.Basic

/-!
# Passes repeated until nothing changes

A pass folds steps that either leave the state alone or make it larger. Repeating the pass
under a size bound reaches a state that no step changes.
-/

namespace Saturation

variable {State Item : Type*}

/-- A step leaves the state alone or makes it larger. -/
def Inflationary (size : State → ℕ) (step : State → Item → State) : Prop :=
  ∀ state item, step state item = state ∨ size state < size (step state item)

/-- Repeat a pass until it changes nothing, at most a given number of times. -/
def untilStable [DecidableEq State] (pass : State → State) : ℕ → State → State
  | 0, state => state
  | rounds + 1, state =>
    if pass state = state then state else untilStable pass rounds (pass state)

variable {size : State → ℕ} {step : State → Item → State}

theorem Inflationary.foldl (inflationary : Inflationary size step) (items : List Item)
    (state : State) :
    items.foldl step state = state ∨ size state < size (items.foldl step state) := by
  induction items generalizing state with
  | nil => exact .inl rfl
  | cons item items ih =>
    rw [List.foldl_cons]
    rcases inflationary state item with unchanged | larger
    · rw [unchanged]
      exact ih state
    · rcases ih (step state item) with unchanged | further
      · exact .inr (unchanged.symm ▸ larger)
      · exact .inr (Nat.lt_trans larger further)

theorem Inflationary.step_eq_of_foldl_eq (inflationary : Inflationary size step)
    {items : List Item} {state : State} (stable : items.foldl step state = state) :
    ∀ item ∈ items, step state item = state := by
  induction items with
  | nil => intro item member; cases member
  | cons first items ih =>
    rw [List.foldl_cons] at stable
    have unchanged : step state first = state := by
      rcases inflationary state first with unchanged | larger
      · exact unchanged
      · rcases inflationary.foldl items (step state first) with same | further
        · rw [same] at stable
          exact stable
        · rw [stable] at further
          exact absurd (Nat.lt_trans larger further) (Nat.lt_irrefl _)
    rw [unchanged] at stable
    intro item member
    rcases List.mem_cons.mp member with rfl | later
    · exact unchanged
    · exact ih stable item later

section Repetition

variable [DecidableEq State] {pass : State → State}

theorem untilStable_invariant {holds : State → Prop}
    (preserved : ∀ state, holds state → holds (pass state)) (rounds : ℕ) {state : State}
    (initial : holds state) : holds (untilStable pass rounds state) := by
  induction rounds generalizing state with
  | zero => exact initial
  | succ rounds ih =>
    unfold untilStable
    split_ifs
    · exact initial
    · exact ih (preserved state initial)

theorem untilStable_stable {holds : State → Prop} {bound : ℕ}
    (preserved : ∀ state, holds state → holds (pass state))
    (inflationary : ∀ state, pass state = state ∨ size state < size (pass state))
    (bounded : ∀ state, holds state → size state ≤ bound) {rounds : ℕ} {state : State}
    (initial : holds state) (enough : bound < size state + rounds) :
    pass (untilStable pass rounds state) = untilStable pass rounds state := by
  induction rounds generalizing state with
  | zero =>
    have limit := bounded state initial
    omega
  | succ rounds ih =>
    unfold untilStable
    split_ifs with stable
    · exact stable
    · have larger := (inflationary state).resolve_left stable
      exact ih (preserved state initial) (by omega)

end Repetition

end Saturation
