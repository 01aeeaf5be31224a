import Kestrel.Base.Run
import Mathlib.Algebra.Order.Group.Nat

/-! # Guarded runs of a step function and the steps they take -/

namespace Transition

variable {State Label : Type*}

/-- Every step of the run of a step function meets a condition on the state it starts from. -/
def Meets (apply : State → Label → State) (condition : State → Label → Prop) :
    State → List Label → Prop
  | _, [] => True
  | state, label :: labels => condition state label ∧ Meets apply condition (apply state label) labels

instance Meets.decidable (apply : State → Label → State) (condition : State → Label → Prop)
    [∀ state label, Decidable (condition state label)] (state : State) :
    (labels : List Label) → Decidable (Meets apply condition state labels)
  | [] => .isTrue trivial
  | label :: labels =>
    letI := Meets.decidable apply condition (apply state label) labels
    inferInstanceAs (Decidable (_ ∧ _))

variable {apply : State → Label → State}

theorem Run.of_meets {condition : State → Label → Prop}
    {state : State} {labels : List Label} (meets : Meets apply condition state labels) :
    Run (Guarded (ofFunction apply) condition) state labels (labels.foldl apply state) := by
  induction labels generalizing state with
  | nil => exact .nil state
  | cons label labels ih => exact .cons ⟨meets.1, rfl⟩ (ih meets.2)

/-- How many steps of a run of a step function are of a kind. -/
def countAlong (apply : State → Label → State) (event : State → Label → Bool) :
    State → List Label → ℕ
  | _, [] => 0
  | state, label :: labels =>
    (event state label).toNat + countAlong apply event (apply state label) labels

/-- Steps of one kind are paid for by a potential or by steps of another kind. -/
theorem Run.countAlong_add_le
    {condition : State → Label → Prop} {holds : State → Prop} {gained lost : State → Label → Bool}
    {potential : State → ℕ}
    (kept : ∀ state label, holds state → condition state label → holds (apply state label))
    (paid : ∀ state label, holds state → condition state label →
      (gained state label).toNat + potential state ≤
        (lost state label).toNat + potential (apply state label))
    {state final : State} {labels : List Label} (initial : holds state)
    (run : Run (Guarded (ofFunction apply) condition) state labels final) :
    countAlong apply gained state labels + potential state ≤
      countAlong apply lost state labels + potential final := by
  induction run with
  | nil => exact le_rfl
  | @cons source middle target label labels first _ ih =>
    obtain ⟨met, rfl⟩ := first
    have head := paid source label initial met
    have rest := ih (kept source label initial met)
    rw [countAlong, countAlong]
    omega

theorem countAlong_add_le {holds : State → Prop}
    {gained lost : State → Label → Bool} {potential : State → ℕ}
    (kept : ∀ state label, holds state → holds (apply state label))
    (paid : ∀ state label, holds state → (gained state label).toNat + potential state ≤
        (lost state label).toNat + potential (apply state label))
    {state : State} (initial : holds state) (labels : List Label) :
    countAlong apply gained state labels + potential state ≤
      countAlong apply lost state labels + potential (labels.foldl apply state) := by
  have unguarded : ∀ labels state, Meets apply (fun _ _ => True) state labels := by
    intro labels
    induction labels with
    | nil => exact fun _ => trivial
    | cons label labels ih => exact fun state => ⟨trivial, ih (apply state label)⟩
  exact Run.countAlong_add_le (fun state label valid _ => kept state label valid)
    (fun state label valid _ => paid state label valid) initial
    (Run.of_meets (unguarded labels state))

theorem countAlong_never (state : State) (labels : List Label) :
    countAlong apply (fun _ _ => false) state labels = 0 := by
  induction labels generalizing state with
  | nil => rfl
  | cons label labels ih =>
    rw [countAlong, ih]
    rfl

end Transition
