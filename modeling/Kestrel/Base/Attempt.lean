import Mathlib.Tactic.SplitIfs

/-!
# Computations that may raise or stop

A computation over a state ends with a value, with an exception or with the loss of its process. The
rules below follow a computation from one await to the next, for each of the three ends.
-/

/-- How a computation, or one of its awaits, ends. -/
inductive Ending (Value : Type) where
  | returned (value : Value)
  | raised
  | stopped
  deriving DecidableEq, Repr

/-- How a write ends. One that raised or stopped may have been applied. -/
inductive Write where
  | done
  | raised (applied : Bool)
  | stopped (applied : Bool)
  deriving DecidableEq, Repr

def Attempt (State Value : Type) : Type := State → Ending Value × State

namespace Attempt

open Prod

variable {State Value Next : Type}

instance : Monad (Attempt State) where
  pure value := fun state => (.returned value, state)
  bind attempt next := fun state =>
    match attempt state with
    | (.returned value, after) => next value after
    | (.raised, after) => (.raised, after)
    | (.stopped, after) => (.stopped, after)

def get : Attempt State State := fun state => (.returned state, state)

def modify (change : State → State) : Attempt State Unit := fun state => (.returned (), change state)

def raise : Attempt State Value := fun state => (.raised, state)

/-- The loss of the process. -/
def stop : Attempt State Value := fun state => (.stopped, state)

/-- An exception unless a condition holds. -/
def require (condition : Prop) [Decidable condition] : Attempt State Unit :=
  if condition then pure () else raise

/-- An await with the end that the environment gives it. -/
def await (ending : Ending Value) : Attempt State Value := fun state => (ending, state)

def write (outcome : Write) (change : State → State) : Attempt State Unit := fun state =>
  match outcome with
  | .done => (.returned (), change state)
  | .raised applied => (.raised, if applied then change state else state)
  | .stopped applied => (.stopped, if applied then change state else state)

section Running

@[simp] theorem run_get (state : State) :
    (get : Attempt State State) state = (.returned state, state) := rfl

@[simp] theorem run_modify (change : State → State) (state : State) :
    modify change state = (.returned (), change state) := rfl

@[simp] theorem run_await (ending : Ending Value) (state : State) :
    (await ending : Attempt State Value) state = (ending, state) := rfl

@[simp] theorem run_write_done (change : State → State) (state : State) :
    write .done change state = (.returned (), change state) := rfl

theorem run_bind {attempt : Attempt State Value} {next : Value → Attempt State Next}
    {state after : State} {value : Value} (first : attempt state = (.returned value, after)) :
    (attempt >>= next) state = next value after := by
  change (match attempt state with
    | (.returned value, after) => next value after
    | (.raised, after) => (.raised, after)
    | (.stopped, after) => (.stopped, after)) = _
  rw [first]

theorem run_require {condition : Prop} [Decidable condition] (holds : condition) (state : State) :
    (require condition : Attempt State Unit) state = (.returned (), state) := by
  rw [require, if_pos holds]
  rfl

end Running

/-- From every state that meets the precondition the computation ends in one of three ways, each
with its own condition. -/
structure Ensures (attempt : Attempt State Value) (before : State → Prop)
    (returned : Value → State → Prop) (raised stopped : State → Prop) : Prop where
  onReturn : ∀ state value after, before state → attempt state = (.returned value, after) →
    returned value after
  onRaise : ∀ state after, before state → attempt state = (.raised, after) → raised after
  onStop : ∀ state after, before state → attempt state = (.stopped, after) → stopped after

namespace Ensures

variable {before middle : State → Prop} {returned : Value → State → Prop}
  {raised stopped : State → Prop}

theorem pure {value : Value} (holds : ∀ state, before state → returned value state) :
    Ensures (Pure.pure value : Attempt State Value) before returned raised stopped where
  onReturn := by
    intro state result after meets same
    obtain ⟨ending, rfl⟩ := mk.inj same
    obtain rfl := Ending.returned.inj ending
    exact holds state meets
  onRaise := fun _ _ _ same => nomatch (mk.inj same).1
  onStop := fun _ _ _ same => nomatch (mk.inj same).1

variable {attempt : Attempt State Value}

theorem bind {next : Value → Attempt State Next} {between : Value → State → Prop}
    {returned : Next → State → Prop} (first : Ensures attempt before between raised stopped)
    (second : ∀ value, Ensures (next value) (between value) returned raised stopped) :
    Ensures (attempt >>= next) before returned raised stopped := by
  have cases : ∀ state, before state →
      (∃ value after, between value after ∧ (attempt >>= next) state = next value after) ∨
      (∃ after, raised after ∧ (attempt >>= next) state = (.raised, after)) ∨
      ∃ after, stopped after ∧ (attempt >>= next) state = (.stopped, after) := by
    intro state meets
    rcases found : attempt state with ⟨ending, after⟩
    have bound : (attempt >>= next) state = match attempt state with
        | (.returned value, after) => next value after
        | (.raised, after) => (.raised, after)
        | (.stopped, after) => (.stopped, after) := rfl
    rw [found] at bound
    cases ending with
    | returned value =>
      exact .inl ⟨value, after, first.onReturn state value after meets found, bound⟩
    | raised => exact .inr (.inl ⟨after, first.onRaise state after meets found, bound⟩)
    | stopped => exact .inr (.inr ⟨after, first.onStop state after meets found, bound⟩)
  refine ⟨?_, ?_, ?_⟩
  · intro state result final meets same
    obtain ⟨value, after, holds, run⟩ | ⟨after, _, run⟩ | ⟨after, _, run⟩ := cases state meets
    · exact (second value).onReturn after result final holds (run.symm.trans same)
    all_goals exact nomatch (mk.inj (run.symm.trans same)).1
  · intro state final meets same
    obtain ⟨value, after, holds, run⟩ | ⟨after, ends, run⟩ | ⟨after, _, run⟩ := cases state meets
    · exact (second value).onRaise after final holds (run.symm.trans same)
    · exact (mk.inj (run.symm.trans same)).2 ▸ ends
    · exact nomatch (mk.inj (run.symm.trans same)).1
  · intro state final meets same
    obtain ⟨value, after, holds, run⟩ | ⟨after, _, run⟩ | ⟨after, ends, run⟩ := cases state meets
    · exact (second value).onStop after final holds (run.symm.trans same)
    · exact nomatch (mk.inj (run.symm.trans same)).1
    · exact (mk.inj (run.symm.trans same)).2 ▸ ends

theorem weaken (ensures : Ensures attempt middle returned raised stopped)
    (implies : ∀ state, before state → middle state) :
    Ensures attempt before returned raised stopped where
  onReturn := fun state value after meets => ensures.onReturn state value after (implies state meets)
  onRaise := fun state after meets => ensures.onRaise state after (implies state meets)
  onStop := fun state after meets => ensures.onStop state after (implies state meets)

theorem strengthen {result : Value → State → Prop}
    (ensures : Ensures attempt before returned raised stopped)
    (implies : ∀ value state, returned value state → result value state) :
    Ensures attempt before result raised stopped where
  onReturn := fun state value after meets same =>
    implies value after (ensures.onReturn state value after meets same)
  onRaise := ensures.onRaise
  onStop := ensures.onStop

theorem assuming {fact : Prop} (implies : ∀ state, before state → fact)
    (ensures : fact → Ensures attempt before returned raised stopped) :
    Ensures attempt before returned raised stopped where
  onReturn := fun state value after meets =>
    (ensures (implies state meets)).onReturn state value after meets
  onRaise := fun state after meets => (ensures (implies state meets)).onRaise state after meets
  onStop := fun state after meets => (ensures (implies state meets)).onStop state after meets

/-- A precondition that holds for some value of a parameter. -/
theorem forSome {Parameter : Type} {family : Parameter → State → Prop}
    (each : ∀ parameter, Ensures attempt (family parameter) returned raised stopped) :
    Ensures attempt (fun state => ∃ parameter, family parameter state) returned raised stopped where
  onReturn := fun state value after meets =>
    (each meets.choose).onReturn state value after meets.choose_spec
  onRaise := fun state after meets => (each meets.choose).onRaise state after meets.choose_spec
  onStop := fun state after meets => (each meets.choose).onStop state after meets.choose_spec

theorem modify {change : State → State} {returned : Unit → State → Prop}
    (holds : ∀ state, before state → returned () (change state)) :
    Ensures (Attempt.modify change) before returned raised stopped where
  onReturn := by
    intro state _ after meets same
    obtain rfl := (mk.inj same).2
    exact holds state meets
  onRaise := fun _ _ _ same => nomatch (mk.inj same).1
  onStop := fun _ _ _ same => nomatch (mk.inj same).1

theorem get : Ensures (Attempt.get : Attempt State State) before
    (fun value state => value = state ∧ before state) raised stopped where
  onReturn := by
    intro state value after meets same
    obtain ⟨ending, rfl⟩ := mk.inj same
    exact ⟨(Ending.returned.inj ending).symm, meets⟩
  onRaise := fun _ _ _ same => nomatch (mk.inj same).1
  onStop := fun _ _ _ same => nomatch (mk.inj same).1

theorem raise (holds : ∀ state, before state → raised state) :
    Ensures (Attempt.raise : Attempt State Value) before returned raised stopped where
  onReturn := fun _ _ _ _ same => nomatch (mk.inj same).1
  onRaise := by
    intro state after meets same
    obtain rfl := (mk.inj same).2
    exact holds state meets
  onStop := fun _ _ _ same => nomatch (mk.inj same).1

theorem stop (holds : ∀ state, before state → stopped state) :
    Ensures (Attempt.stop : Attempt State Value) before returned raised stopped where
  onReturn := fun _ _ _ _ same => nomatch (mk.inj same).1
  onRaise := fun _ _ _ same => nomatch (mk.inj same).1
  onStop := by
    intro state after meets same
    obtain rfl := (mk.inj same).2
    exact holds state meets

/-- Past a check its condition holds. -/
theorem require {condition : Prop} [Decidable condition] (refused : ∀ state, before state →
    raised state) :
    Ensures (Attempt.require condition : Attempt State Unit) before
      (fun _ state => condition ∧ before state) raised stopped := by
  unfold Attempt.require
  split_ifs with holds
  · exact pure fun state meets => ⟨holds, meets⟩
  · exact raise refused

/-- A check that every state of the precondition passes. -/
theorem require_of {condition : Prop} [Decidable condition]
    (holds : ∀ state, before state → condition) :
    Ensures (Attempt.require condition : Attempt State Unit) before
      (fun _ state => before state) raised stopped := by
  refine assuming holds ?_
  intro met
  unfold Attempt.require
  rw [if_pos met]
  exact pure fun _ meets => meets

theorem await {ending : Ending Value} (refused : ∀ state, before state → raised state)
    (cut : ∀ state, before state → stopped state) :
    Ensures (Attempt.await ending) before
      (fun value state => ending = .returned value ∧ before state) raised stopped where
  onReturn := by
    intro state value after meets same
    obtain ⟨rfl, rfl⟩ := mk.inj same
    exact ⟨rfl, meets⟩
  onRaise := by
    intro state after meets same
    obtain ⟨rfl, rfl⟩ := mk.inj same
    exact refused state meets
  onStop := by
    intro state after meets same
    obtain ⟨rfl, rfl⟩ := mk.inj same
    exact cut state meets

theorem write {outcome : Write} {change : State → State} {returned : Unit → State → Prop}
    (done : ∀ state, before state → outcome = .done → returned () (change state))
    (refused : ∀ state applied, before state → outcome = .raised applied →
      raised (if applied then change state else state))
    (cut : ∀ state applied, before state → outcome = .stopped applied →
      stopped (if applied then change state else state)) :
    Ensures (Attempt.write outcome change) before returned raised stopped := by
  cases outcome with
  | done =>
    refine ⟨?_, fun _ _ _ same => (nomatch (mk.inj same).1),
      fun _ _ _ same => (nomatch (mk.inj same).1)⟩
    intro state _ after meets same
    obtain rfl := (mk.inj same).2
    exact done state meets rfl
  | raised applied =>
    refine ⟨fun _ _ _ _ same => (nomatch (mk.inj same).1), ?_,
      fun _ _ _ same => (nomatch (mk.inj same).1)⟩
    intro state after meets same
    obtain rfl := (mk.inj same).2
    exact refused state applied meets rfl
  | stopped applied =>
    refine ⟨fun _ _ _ _ same => (nomatch (mk.inj same).1),
      fun _ _ _ same => (nomatch (mk.inj same).1), ?_⟩
    intro state after meets same
    obtain rfl := (mk.inj same).2
    exact cut state applied meets rfl

end Ensures

end Attempt
