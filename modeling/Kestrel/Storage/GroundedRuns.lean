import Kestrel.Storage.LedgerGrounding
import Kestrel.Storage.LifecycleGrounding

/-!
# Grounding over runs of the lifecycle

From an empty tenant, every run of committed mutations whose supersessions and ledger writes
meet the conditions their code leaves unchecked keeps every live conclusion grounded.
-/

namespace Kestrel.AssertionStore

open Except

variable {D : Domain}

/-- The mutations of the canonical lifecycle. -/
inductive Mutation (D : Domain) where
  | putAssertion (assertion : Assertion D) (sources : List (SourceOccurrence D))
      (expectedGeneration : Option ℕ)
  | publishInferredAssertion (assertion : Assertion D)
  | reactivateInferred (assertion : Assertion D)
  | supersede (expectedPredecessorRevisionId : D.RevisionId) (replacement : Assertion D)
      (sources : List (SourceOccurrence D)) (expectedGeneration : Option ℕ)
  | restore (expectedTerminalRevisionId : D.RevisionId) (replacement : Assertion D)
      (sources : List (SourceOccurrence D)) (expectedGeneration : Option ℕ)
  | retract (assertionId : D.AssertionId) (expectedRevisionId : D.RevisionId)
  | delete (assertionId : D.AssertionId) (expectedRevisionId : D.RevisionId)
  | quarantineForValidation (assertionId : D.AssertionId) (expectedRevisionId : D.RevisionId)
  | quarantineReportTargets (targets : List (D.AssertionId × D.RevisionId))
  | invalidateAssertionEligibility (assertionId : D.AssertionId)
      (expectedRevisionId : D.RevisionId)
  | writeActiveDerivations (profile : LedgerProfile D) (facts : List (PublishedFact D))
      (replace : Bool)

def Mutation.withdrawal : Mutation D → Option (D.AssertionId × D.RevisionId)
  | .retract assertionId expected | .delete assertionId expected
  | .invalidateAssertionEligibility assertionId expected => some (assertionId, expected)
  | _ => none

namespace Store

def commit (supply : Supply D) (store : Store D) : Mutation D → Except StoreError (Store D)
  | .putAssertion assertion sources expectedGeneration =>
    (store.putAssertion supply assertion sources expectedGeneration).map Prod.fst
  | .publishInferredAssertion assertion =>
    (store.publishInferredAssertion supply assertion).map Prod.fst
  | .reactivateInferred assertion => (store.reactivateInferred supply assertion).map Prod.fst
  | .supersede expected replacement sources expectedGeneration =>
    (store.supersede supply expected replacement sources expectedGeneration).map Prod.fst
  | .restore expected replacement sources expectedGeneration =>
    (store.restore supply expected replacement sources expectedGeneration).map Prod.fst
  | .retract assertionId expected => (store.retract supply assertionId expected).map Prod.fst
  | .delete assertionId expected => (store.delete supply assertionId expected).map Prod.fst
  | .quarantineForValidation assertionId expected =>
    (store.quarantineForValidation supply assertionId expected).map Prod.fst
  | .quarantineReportTargets targets =>
    (store.quarantineReportTargets supply targets).map Prod.fst
  | .invalidateAssertionEligibility assertionId expected =>
    (store.invalidateAssertionEligibility supply assertionId expected).map Prod.fst
  | .writeActiveDerivations profile facts replace =>
    store.writeActiveDerivations profile facts replace

def Commits (before : Store D) (mutation : Mutation D) (after : Store D) : Prop :=
  ∃ supply : Supply D, supply.FreshFrom 0 before ∧ before.commit supply mutation = .ok after

def MutationSafe (store : Store D) : Mutation D → Prop
  | .supersede expected replacement _ _ => store.SupersessionSafe expected replacement
  | .writeActiveDerivations profile facts replace => store.LedgerWriteSafe profile facts replace
  | _ => True

variable {store before after : Store D} {supply : Supply D} {mutation : Mutation D}

variable {assertionId : D.AssertionId} {expected : D.RevisionId} {result : WithdrawalResult D}

theorem withdrawRoot_of_commit (withdraws : mutation.withdrawal = some (assertionId, expected))
    (committed : before.commit supply mutation = .ok after) : ∃ root terminal last result,
      before.expectedActiveCurrent assertionId expected = .ok root ∧
      (∀ status epistemicState, terminal = some (status, epistemicState) → status ≠ .active) ∧
      before.withdrawRoot supply root terminal = .ok (last, result) ∧
      SameTables last after ∧ after.generation = last.generation := by
  have announced (operation : String) (items : List (Assertion D)) (draw : ℕ) {last middle : Store D}
      (same : SameTables last middle ∧ middle.generation = last.generation) :
      SameTables last (events supply operation items draw middle) ∧
        (events supply operation items draw middle).generation = last.generation :=
    ⟨same.1.trans (sameTables_events _ _ _ _ _), (generation_events _ _ _ _ _).trans same.2⟩
  cases mutation with
  | retract | delete | invalidateAssertionEligibility =>
    cases withdraws
    obtain ⟨result, requested⟩ := map_fst_eq_ok committed
    obtain ⟨root, located, requested⟩ := bind_eq_ok.mp requested
    obtain ⟨⟨last, _⟩, withdrawn, requested⟩ := bind_eq_ok.mp requested
    cases requested
    refine ⟨root, _, last, result, located, ?_, withdrawn, announced _ _ _ ?_⟩
    · rintro status epistemicState ⟨⟩
      all_goals decide
    · first
        | exact ⟨.refl _, rfl⟩
        | exact announced _ _ _ ⟨.refl _, rfl⟩
        | exact ⟨⟨rfl, rfl, rfl⟩, rfl⟩
  | _ => cases withdraws

theorem grounded_withdrawal (coherent : before.Coherent) (fresh : supply.FreshFrom 0 before)
    (withdraws : mutation.withdrawal = some (assertionId, expected))
    (committed : before.commit supply mutation = .ok after) :
    after.Coherent ∧ after.Grounded := by
  obtain ⟨root, terminal, last, result, located, inactive, withdrawn, same, _⟩ :=
    withdrawRoot_of_commit withdraws committed
  obtain ⟨coherent', cascade⟩ := cascade_withdrawRoot coherent fresh
    (expectedActiveCurrent_eq_ok located).1 inactive withdrawn
  exact ⟨same.coherent coherent', same.grounded cascade.grounded⟩

theorem commit_retract (retracted : store.retract supply assertionId expected =
    .ok (after, result)) : store.commit supply (.retract assertionId expected) = .ok after := by
  rw [commit, retracted]
  rfl

/-- **A safe mutation keeps the tables coherent and the conclusions grounded.** -/
theorem grounded_commits (valid : before.Coherent ∧ before.Grounded)
    (safe : before.MutationSafe mutation) (committed : before.Commits mutation after) :
    after.Coherent ∧ after.Grounded := by
  obtain ⟨coherent, grounded⟩ := valid
  obtain ⟨supply, fresh, committed⟩ := committed
  cases mutation with
  | putAssertion assertion sources expectedGeneration =>
    obtain ⟨result, put⟩ := map_fst_eq_ok committed
    obtain ⟨_, _, put⟩ := bind_eq_ok.mp put
    exact grounded_putInitialAssertion coherent grounded put
  | publishInferredAssertion assertion =>
    obtain ⟨result, published⟩ := map_fst_eq_ok committed
    unfold publishInferredAssertion at published
    split_ifs at published
    obtain ⟨_, _, published⟩ := bind_eq_ok.mp published
    exact grounded_putInitialAssertion coherent grounded published
  | reactivateInferred assertion =>
    obtain ⟨result, reactivated⟩ := map_fst_eq_ok committed
    exact grounded_reactivateInferred coherent grounded reactivated
  | supersede expected replacement sources expectedGeneration =>
    obtain ⟨result, superseded⟩ := map_fst_eq_ok committed
    exact grounded_supersede coherent fresh safe superseded
  | restore expected replacement sources expectedGeneration =>
    obtain ⟨result, restored⟩ := map_fst_eq_ok committed
    exact grounded_restore coherent grounded restored
  | retract | delete | invalidateAssertionEligibility =>
    exact grounded_withdrawal coherent fresh rfl committed
  | quarantineForValidation assertionId expected =>
    obtain ⟨result, quarantined⟩ := map_fst_eq_ok committed
    obtain ⟨root, located, quarantined⟩ := bind_eq_ok.mp quarantined
    obtain ⟨coherent', cascade⟩ := cascade_quarantineCurrent coherent fresh (fun other member => by
        rw [List.mem_singleton] at member
        exact ⟨assertionId, member ▸ (expectedActiveCurrent_eq_ok located).1⟩) quarantined
    exact ⟨coherent', cascade.grounded⟩
  | quarantineReportTargets targets =>
    obtain ⟨result, quarantined⟩ := map_fst_eq_ok committed
    obtain ⟨roots, located, quarantined⟩ := bind_eq_ok.mp quarantined
    obtain ⟨coherent', cascade⟩ := cascade_quarantineCurrent coherent fresh
      (expectedActiveTargets_current located) quarantined
    exact ⟨coherent', cascade.grounded⟩
  | writeActiveDerivations profile facts replace =>
    exact grounded_writeActiveDerivations coherent grounded safe committed

theorem empty_grounded : (empty : Store D).Grounded :=
  fun _ live _ => by cases live

/-- **In every run of safe mutations from an empty tenant, every live conclusion is in the
least set that contains the live direct revisions and is closed under the proofs.** -/
theorem run_grounded {mutations : List (Mutation D)}
    (run : Transition.Run (Transition.Guarded Commits MutationSafe) empty mutations store) :
    store.Grounded := by
  have preserved : ∀ (before : Store D) mutation after, before.Coherent ∧ before.Grounded →
      before.MutationSafe mutation → before.Commits mutation after →
      after.Coherent ∧ after.Grounded :=
    fun _ _ _ valid safe committed => grounded_commits valid safe committed
  exact (Transition.invariant_of_guarded preserved ⟨empty_coherent, empty_grounded⟩ run).2

/-! ## Runs on natural-number identifiers -/

/-- The tables after a mutation, unchanged if it is rejected. -/
def afterCommit (supply : Supply D) (store : Store D) (mutation : Mutation D) : Store D :=
  match store.commit supply mutation with
  | .ok after => after
  | .error _ => store

theorem commits_afterCommit {mutation : Mutation D} (fresh : supply.FreshFrom 0 store)
    (accepted : (store.commit supply mutation).isOk = true) :
    store.Commits mutation (store.afterCommit supply mutation) := by
  refine ⟨supply, fresh, ?_⟩
  unfold afterCommit
  cases committed : store.commit supply mutation with
  | ok after => rfl
  | error _ =>
    rw [committed] at accepted
    cases accepted

theorem freshFrom_natural {store : Store Domain.natural} (first : ℕ)
    (below : ∀ key ∈ store.revisions.keys, key < first) :
    (Domain.natural.supply first).FreshFrom 0 store := by
  intro later _
  apply Table.row_eq_none
  intro member
  have small : first + later < first := below _ member
  omega

open Domain.natural in
/-- Two direct facts, a conclusion from the first, and the second superseded by a fact with a
given claim. -/
def supersededRun (content : ℕ) : List (Mutation Domain.natural) :=
  [.putAssertion (direct 1 1 1) [⟨1, ()⟩] none,
    .putAssertion (direct 2 2 2) [⟨2, ()⟩] none,
    .publishInferredAssertion (inferred 3 3 1 three_ne_one),
    .supersede 2 (direct content 4 4) [⟨4, ()⟩] none]

/-- The tables that a number of steps of the run commit. -/
def supersededStore (content steps : ℕ) : Store Domain.natural :=
  ((supersededRun content).take steps).foldl (afterCommit (Domain.natural.supply 100)) empty

/-- Superseding the second fact by the claim of the first strands the conclusion drawn from the
first: its only premise is no longer current. -/
theorem supersede_strands_conclusion :
    ∃ (mutations : List (Mutation Domain.natural)) (store : Store Domain.natural),
      Transition.Run Commits empty mutations store ∧ ¬ store.Grounded := by
  refine ⟨supersededRun 1, supersededStore 1 4, ?_, ?_⟩
  · refine .cons (commits_afterCommit (freshFrom_natural 100 ?_) ?_) <|
      .cons (commits_afterCommit (freshFrom_natural 100 ?_) ?_) <|
      .cons (commits_afterCommit (freshFrom_natural 100 ?_) ?_) <|
      .cons (commits_afterCommit (freshFrom_natural 100 ?_) ?_) <| .nil _
    all_goals decide +kernel
  · rw [grounded_iff_plan_eq_nil]
    decide +kernel

/-- Superseding the second fact by a new claim keeps the conclusion drawn from the first. -/
theorem run_grounded_superseded : (supersededStore 5 4).Grounded ∧
      (supersededStore 5 4).Live (Domain.natural.inferred 3 3 1 (by decide)) := by
  have others : ∀ other ∈ (supersededStore 5 3).currentActiveEligibleRows.map (·.assertion),
      other.assertionId = 5 → other.revisionId = 2 := by decide +kernel
  have safe : (supersededStore 5 3).SupersessionSafe 2 (Domain.natural.direct 5 4 4) :=
    ⟨others, fun _ impossible => by cases impossible⟩
  have run : Transition.Run (Transition.Guarded Commits MutationSafe) empty (supersededRun 5)
      (supersededStore 5 4) := by
    refine .cons ⟨trivial, commits_afterCommit (freshFrom_natural 100 ?_) ?_⟩ <|
      .cons ⟨trivial, commits_afterCommit (freshFrom_natural 100 ?_) ?_⟩ <|
      .cons ⟨trivial, commits_afterCommit (freshFrom_natural 100 ?_) ?_⟩ <|
      .cons ⟨safe, commits_afterCommit (freshFrom_natural 100 ?_) ?_⟩ <| .nil _
    all_goals decide +kernel
  exact ⟨run_grounded run, by decide +kernel⟩

end Store

end Kestrel.AssertionStore
