import Mathlib.Logic.Relation

/-! # Labelled runs and the invariants they keep -/

namespace Transition

variable {State Label : Type*}

/-- The runs of a labelled step relation, with the labels in the order they were taken. -/
inductive Run (step : State → Label → State → Prop) : State → List Label → State → Prop where
  | nil (state : State) : Run step state [] state
  | cons {source middle target : State} {label : Label} {labels : List Label} :
      step source label middle → Run step middle labels target →
      Run step source (label :: labels) target

def Guarded (step : State → Label → State → Prop) (condition : State → Label → Prop)
    (source : State) (label : Label) (target : State) : Prop :=
  condition source label ∧ step source label target

def ofFunction (step : State → Label → State) (source : State) (label : Label)
    (target : State) : Prop :=
  target = step source label

namespace Run

variable {step : State → Label → State → Prop}

theorem invariant {holds : State → Prop}
    (preserved : ∀ source label target, holds source → step source label target → holds target)
    {source target : State} {labels : List Label} (initial : holds source)
    (run : Run step source labels target) : holds target := by
  induction run with
  | nil => exact initial
  | cons first _ later => exact later (preserved _ _ _ initial first)

/-- A predicate of what was done and the state it led to, kept by every step, is kept by every
run. -/
theorem history {holds : List Label → State → Prop}
    (preserved : ∀ labels source label target, holds labels source → step source label target →
      holds (labels ++ [label]) target)
    {source target : State} {labels : List Label} (initial : holds [] source)
    (run : Run step source labels target) : holds labels target := by
  have continued : ∀ {source target labels}, Run step source labels target →
      ∀ done, holds done source → holds (done ++ labels) target := by
    intro source target labels run
    induction run with
    | nil state =>
      intro done valid
      rw [List.append_nil]
      exact valid
    | cons first _ later =>
      intro done valid
      rw [List.append_cons]
      exact later _ (preserved _ _ _ _ valid first)
  exact continued run [] initial

variable {source target : State} {labels : List Label}

theorem split {before after : List Label} (run : Run step source (before ++ after) target) :
    ∃ middle, Run step source before middle ∧ Run step middle after target := by
  induction before generalizing source with
  | nil => exact ⟨source, .nil source, run⟩
  | cons label before ih =>
    cases run with
    | cons first rest =>
      obtain ⟨middle, left, right⟩ := ih rest
      exact ⟨middle, .cons first left, right⟩

theorem append {middle : State} {before after : List Label} (left : Run step source before middle)
    (right : Run step middle after target) :
    Run step source (before ++ after) target := by
  induction left with
  | nil => exact right
  | cons first _ later => exact .cons first (later right)

theorem replay (step : State → Label → State) (source : State) (labels : List Label) :
    Run (ofFunction step) source labels (labels.foldl step source) := by
  induction labels generalizing source with
  | nil => exact .nil source
  | cons label labels ih => exact .cons rfl (ih (step source label))

theorem of_foldlM {step : State → Label → Option State}
    (replayed : labels.foldlM step source = some target) :
    Run (fun source label target => step source label = some target) source labels target := by
  induction labels generalizing source with
  | nil =>
    cases replayed
    exact .nil _
  | cons label labels ih =>
    obtain ⟨middle, stepped, rest⟩ := Option.bind_eq_some_iff.mp replayed
    exact .cons stepped (ih rest)

theorem eq_foldl {step : State → Label → State} {condition : State → Label → Prop}
    (run : Run (Guarded (ofFunction step) condition) source labels target) :
    target = labels.foldl step source := by
  induction run with
  | nil => rfl
  | cons first _ ih =>
    rw [ih, first.2]
    rfl

theorem mono {wider : State → Label → State → Prop}
    (inclusion : ∀ source label target, step source label target → wider source label target)
    (run : Run step source labels target) :
    Run wider source labels target := by
  induction run with
  | nil state => exact .nil state
  | cons first _ later => exact .cons (inclusion _ _ _ first) later

end Run

theorem invariant_of_guarded {step : State → Label → State → Prop}
    {condition : State → Label → Prop} {holds : State → Prop}
    (preserved : ∀ source label target, holds source → condition source label →
      step source label target → holds target)
    {source target : State} {labels : List Label} (initial : holds source)
    (run : Run (Guarded step condition) source labels target) : holds target :=
  run.invariant (fun source label target valid guarded =>
    preserved source label target valid guarded.1 guarded.2) initial

end Transition
