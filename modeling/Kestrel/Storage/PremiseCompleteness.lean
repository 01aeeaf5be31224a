import Kestrel.Knowledge.RecordedProofs
import Kestrel.Storage.GroundedRuns

/-!
# Revoking the proofs of a closure

A withdrawal deactivates every ledger proof that names a withdrawn revision. It revokes every
conclusion that used the fact only when the recorded premises are all that the rule used.
-/

namespace Kestrel.AssertionStore

open List Except

variable {D : Domain}

def Mutation.withdrawn : Mutation D → List D.RevisionId
  | .supersede expected _ _ _ => [expected]
  | .retract _ expected => [expected]
  | .delete _ expected => [expected]
  | .quarantineForValidation _ expected => [expected]
  | .quarantineReportTargets targets => targets.map Prod.snd
  | .invalidateAssertionEligibility _ expected => [expected]
  | _ => []

namespace Store

def ActivatesNothing (before after : Store D) : Prop :=
  ∀ derivationId derivation, after.derivations.row derivationId = some derivation →
    derivation.active = true → before.derivations.row derivationId = some derivation

/-- No active proof names a revision. -/
def Revoked (store : Store D) (revisionId : D.RevisionId) : Prop :=
  ∀ derivationId derivation, store.derivations.row derivationId = some derivation →
    derivation.active = true → revisionId ∉ derivation.inputRevisionIds

variable {store before middle after : Store D} {supply : Supply D}

section ActivatesNothing

theorem ActivatesNothing.of_derivations (same : after.derivations = before.derivations) :
    ActivatesNothing before after := by
  intro derivationId derivation stored _
  rw [← same]
  exact stored

theorem ActivatesNothing.trans (first : ActivatesNothing before middle)
    (second : ActivatesNothing middle after) : ActivatesNothing before after :=
  fun derivationId derivation stored active =>
    first derivationId derivation (second derivationId derivation stored active) active

theorem ActivatesNothing.revoked (step : ActivatesNothing before after)
    {revisionId : D.RevisionId} (revoked : before.Revoked revisionId) :
    after.Revoked revisionId :=
  fun derivationId derivation stored active =>
    revoked derivationId derivation (step derivationId derivation stored active) active

theorem activatesNothing_deactivate (store : Store D) (derivationIds : List D.DerivationId) :
    ActivatesNothing store (store.deactivateInferenceDerivationIds derivationIds) := by
  intro derivationId derivation stored active
  obtain ⟨original, found, same⟩ := Option.map_eq_some_iff.mp stored
  dsimp only at same
  split_ifs at same
  · subst same
    cases active
  · exact same ▸ found

theorem activatesNothing_invalidateEligibility (store : Store D) (revisionId : D.RevisionId)
    (flag : Bool) : ActivatesNothing store (store.invalidateEligibility revisionId flag) := by
  cases flag with
  | false => exact .of_derivations rfl
  | true =>
    have first : ActivatesNothing store { store with
        revisions := store.revisions.adjust fun storedId row =>
          if storedId = revisionId then { row with eligible := false } else row } :=
      .of_derivations rfl
    exact first.trans (activatesNothing_deactivate _ _)

theorem derivations_writeRevision {assertion : Assertion D}
    (written : store.writeRevision assertion = .ok after) :
    after.derivations = store.derivations := by
  unfold writeRevision at written
  split at written
  · split_ifs at written
    cases written
    rfl
  · cases written
    rfl

variable {epistemicState : Option EpistemicState}

theorem activatesNothing_writeState {draw : ℕ} {item state : Assertion D} {status : AssertionStatus}
    {supersedesRevisionId : Option D.RevisionId}
    (written : store.writeState supply draw item status supersedesRevisionId epistemicState =
      .ok (after, state)) : ActivatesNothing store after := by
  unfold writeState at written
  obtain ⟨made, _, written⟩ := bind_eq_ok.mp written
  obtain ⟨middle, stored, written⟩ := bind_eq_ok.mp written
  cases written
  have same : middle.derivations = store.derivations := derivations_writeRevision stored
  exact .of_derivations same

theorem activatesNothing_retireAll {items states : List (Assertion D)} {draw : ℕ} {flag : Bool}
    {status : AssertionStatus}
    (retired : store.retireAll supply flag status epistemicState items draw =
      .ok (after, states)) : ActivatesNothing store after := by
  induction items generalizing store draw states with
  | nil =>
    cases retired
    exact .of_derivations rfl
  | cons item items ih =>
    obtain ⟨⟨middle, state⟩, written, retired⟩ := bind_eq_ok.mp retired
    obtain ⟨⟨last, states⟩, rest, retired⟩ := bind_eq_ok.mp retired
    cases retired
    have first := activatesNothing_invalidateEligibility store item.revisionId flag
    have second := activatesNothing_writeState written
    exact (first.trans second).trans (ih rest)

theorem activatesNothing_events (supply : Supply D) (operation : String)
    (assertions : List (Assertion D)) (draw : ℕ) (store : Store D) :
    ActivatesNothing store (events supply operation assertions draw store) :=
  .of_derivations (sameTables_events supply operation assertions draw store).derivations

end ActivatesNothing

section Withdrawals

variable {root : Assertion D} {roots : List D.RevisionId}

variable {revisionId : D.RevisionId} {result : WithdrawalResult D}

theorem revoked_plan (store : Store D) {roots : List D.RevisionId} (root : revisionId ∈ roots) :
    (store.deactivateInferenceDerivationIds
      (store.planDependentCurrentRevisions roots).2).Revoked revisionId := by
  intro derivationId derivation stored active named
  have surviving := surviving_of_active stored active
  have kept := activatesNothing_deactivate store _ derivationId derivation stored active
  exact (surviving.spares kept named).1 root

theorem activatesNothing_withdrawRoot {terminal : Option (AssertionStatus × Option EpistemicState)}
    (withdrawn : store.withdrawRoot supply root terminal = .ok (after, result)) :
    ActivatesNothing store after ∧ after.Revoked root.revisionId := by
  unfold withdrawRoot dependentCurrentRevisions at withdrawn
  obtain ⟨⟨ended, roots⟩, terminated, withdrawn⟩ := bind_eq_ok.mp withdrawn
  dsimp only at withdrawn
  obtain ⟨⟨retired, states⟩, retires, withdrawn⟩ := bind_eq_ok.mp withdrawn
  cases withdrawn
  have invalidated := activatesNothing_invalidateEligibility store root.revisionId true
  generalize store.invalidateEligibility root.revisionId true = ineligible at terminated invalidated
  have planned := revoked_plan ineligible (mem_singleton_self root.revisionId)
  have pruning := invalidated.trans (activatesNothing_deactivate ineligible
    (ineligible.planDependentCurrentRevisions [root.revisionId]).2)
  generalize ineligible.deactivateInferenceDerivationIds _ = pruned at terminated planned pruning
  have first : ActivatesNothing pruned ended := by
    unfold writeTerminal at terminated
    split at terminated
    · cases terminated
      exact .of_derivations rfl
    · obtain ⟨⟨written, state⟩, wrote, terminated⟩ := bind_eq_ok.mp terminated
      cases terminated
      exact activatesNothing_writeState wrote
  have second : ActivatesNothing ended retired := activatesNothing_retireAll retires
  have last : ActivatesNothing retired retired.advanceGeneration := .of_derivations rfl
  have rest := (first.trans second).trans last
  exact ⟨pruning.trans rest, rest.revoked planned⟩

variable {expected : D.RevisionId} {roots : List (Assertion D)}

theorem activatesNothing_withdrawal {mutation : Mutation D} {assertionId : D.AssertionId}
    (withdraws : mutation.withdrawal = some (assertionId, expected))
    (committed : before.commit supply mutation = .ok after) :
    ActivatesNothing before after ∧ after.Revoked expected := by
  obtain ⟨root, terminal, last, result, located, _, withdrew, same, _⟩ :=
    withdrawRoot_of_commit withdraws committed
  rw [← (expectedActiveCurrent_eq_ok located).2.1]
  obtain ⟨step, revoked⟩ := activatesNothing_withdrawRoot withdrew
  have announced := ActivatesNothing.of_derivations same.derivations
  exact ⟨step.trans announced, announced.revoked revoked⟩

theorem revoked_quarantineCurrent (root : revisionId ∈ roots.map (·.revisionId))
    (quarantined : store.quarantineCurrent supply roots = .ok (after, result)) :
    after.Revoked revisionId := by
  unfold quarantineCurrent dependentCurrentRevisions at quarantined
  obtain ⟨⟨rooted, states⟩, first, quarantined⟩ := bind_eq_ok.mp quarantined
  dsimp only at quarantined
  obtain ⟨⟨last, dependents⟩, second, quarantined⟩ := bind_eq_ok.mp quarantined
  cases quarantined
  have planned := revoked_plan store root
  have retired := (activatesNothing_retireAll first).trans (activatesNothing_retireAll second)
  have advanced : ActivatesNothing last (if roots = [] then last else last.advanceGeneration) := by
    split_ifs <;> exact .of_derivations rfl
  generalize (if roots = [] then last else last.advanceGeneration) = final at advanced ⊢
  have announced := (activatesNothing_events supply "validation_quarantined" states 0 final).trans
    (activatesNothing_events supply "retracted" dependents states.length _)
  exact ((retired.trans advanced).trans announced).revoked planned

theorem revoked_supersede {replacement : Assertion D} {sources : List (SourceOccurrence D)}
    {expectedGeneration : Option ℕ} {result : SupersessionResult D}
    (superseded : store.supersede supply expected replacement sources expectedGeneration =
      .ok (after, result)) : after.Revoked expected := by
  unfold supersede at superseded
  split_ifs at superseded
  obtain ⟨sourced, _, superseded⟩ := bind_eq_ok.mp superseded
  obtain ⟨_, _, superseded⟩ := bind_eq_ok.mp superseded
  obtain ⟨plan, planned, superseded⟩ := bind_eq_ok.mp superseded
  obtain ⟨predecessorState, _, superseded⟩ := bind_eq_ok.mp superseded
  obtain ⟨replacementState, _, superseded⟩ := bind_eq_ok.mp superseded
  obtain ⟨⟨retired, dependentStates⟩, retires, superseded⟩ := bind_eq_ok.mp superseded
  dsimp only at superseded
  obtain ⟨predecessorStore, predecessorWritten, superseded⟩ := bind_eq_ok.mp superseded
  obtain ⟨replacementStore, replacementWritten, superseded⟩ := bind_eq_ok.mp superseded
  cases superseded
  have deactivated : plan.deactivatedDerivationIds =
      (sourced.planDependentCurrentRevisions [expected]).2 := by
    unfold planSupersessionLifecycle at planned
    split at planned
    · cases planned
    · split_ifs at planned
      cases planned
      rfl
  rw [deactivated] at retires
  have revoked := (activatesNothing_retireAll retires).revoked
    (revoked_plan sourced (mem_singleton_self expected))
  have first : predecessorStore.derivations =
      (retired.invalidateEligibility expected false).derivations :=
    derivations_writeRevision predecessorWritten
  have second : replacementStore.derivations =
      (predecessorStore.setCurrent predecessorState).derivations :=
    derivations_writeRevision replacementWritten
  have written : replacementStore.derivations = retired.derivations := second.trans first
  have replaced : ActivatesNothing retired
      ((((replacementStore.setCurrent replacementState).advanceGeneration).event
        (supply.eventUuid4 0) predecessorState "superseded" false).event (supply.eventUuid4 1)
          replacementState "accepted" true) := .of_derivations written
  exact (replaced.trans (activatesNothing_events supply "retracted" dependentStates 2 _)).revoked
    revoked

theorem expectedActiveTargets_revisions {targets : List (D.AssertionId × D.RevisionId)}
    (expected : store.expectedActiveTargets targets = .ok roots) :
    roots.map (·.revisionId) = targets.map Prod.snd := by
  unfold expectedActiveTargets at expected
  induction targets generalizing roots with
  | nil =>
    cases expected
    rfl
  | cons target targets ih =>
    rw [mapM_cons, bind_eq_ok] at expected
    obtain ⟨first, checked, expected⟩ := expected
    obtain ⟨rest, later, expected⟩ := bind_eq_ok.mp expected
    cases expected
    split at checked
    · cases checked
    · split_ifs at checked with mismatch
      cases checked
      push Not at mismatch
      rw [map_cons, map_cons, mismatch.1, ih later]

/-- **A committed withdrawal leaves no active proof that names a withdrawn revision.** -/
theorem commit_revokes {mutation : Mutation D}
    (committed : before.commit supply mutation = .ok after)
    (withdrawn : revisionId ∈ mutation.withdrawn) : after.Revoked revisionId := by
  cases mutation with
  | putAssertion | publishInferredAssertion | reactivateInferred | restore
  | writeActiveDerivations => cases withdrawn
  | supersede expected replacement sources expectedGeneration =>
    cases mem_singleton.mp withdrawn
    obtain ⟨result, superseded⟩ := map_fst_eq_ok committed
    exact revoked_supersede superseded
  | retract | delete | invalidateAssertionEligibility =>
    cases mem_singleton.mp withdrawn
    exact (activatesNothing_withdrawal rfl committed).2
  | quarantineForValidation assertionId expected =>
    cases mem_singleton.mp withdrawn
    obtain ⟨result, quarantined⟩ := map_fst_eq_ok committed
    obtain ⟨root, located, quarantined⟩ := bind_eq_ok.mp quarantined
    refine revoked_quarantineCurrent ?_ quarantined
    rw [map_singleton, (expectedActiveCurrent_eq_ok located).2.1]
    exact mem_singleton_self _
  | quarantineReportTargets targets =>
    obtain ⟨result, quarantined⟩ := map_fst_eq_ok committed
    obtain ⟨roots, located, quarantined⟩ := bind_eq_ok.mp quarantined
    refine revoked_quarantineCurrent ?_ quarantined
    rw [expectedActiveTargets_revisions located]
    exact withdrawn

end Withdrawals

theorem mem_premiseRevisions {premises : List D.AssertionId} {revisionIds : List D.RevisionId}
    (resolved : store.premiseRevisions premises = .ok revisionIds) {premise : D.AssertionId}
    {support : Assertion D} (named : premise ∈ premises)
    (found : store.getAssertion premise = some support) : support.revisionId ∈ revisionIds := by
  unfold premiseRevisions at resolved
  induction premises generalizing revisionIds with
  | nil => cases named
  | cons first premises ih =>
    rw [mapM_cons, bind_eq_ok] at resolved
    obtain ⟨revisionId, located, resolved⟩ := resolved
    obtain ⟨rest, later, resolved⟩ := bind_eq_ok.mp resolved
    cases resolved
    rcases mem_cons.mp named with same | later_named
    · subst same
      rw [found] at located
      cases located
      exact mem_cons_self
    · exact mem_cons_of_mem _ (ih later later_named)

section Closure

open Inference

variable {I L : Type*} [DecidableEq I] [DecidableEq L]

/-- Whenever a withdrawal of some fact leaves the ledger row of a closure's proof active as it
was written, the facts that the proof names yield the conclusion without the withdrawn one. -/
def RevokedWithFacts (profile : LedgerProfile D) (ruleName : RuleId → D.Name)
    (engine : Engine I L D.AssertionId) (facts : List (Fact I L D.AssertionId))
    (fact : Fact I L D.AssertionId) (derivation : Inference.Derivation D.AssertionId) : Prop :=
  ∀ (written before after : Store D) (supply : Supply D) (mutation : Mutation D)
    (row : AssertionStore.Derivation D) (withdrawn : Triple I L) (support : Assertion D),
    RecordsProof profile written (engine.setting.assertionId fact.triple)
      (ruleName derivation.ruleId, derivation.premises) →
    written.derivations.row (proofKey profile (engine.setting.assertionId fact.triple)
      (ruleName derivation.ruleId, derivation.premises)) = some row →
    written.getAssertion (engine.setting.assertionId withdrawn) = some support →
    support.revisionId ∈ mutation.withdrawn →
    before.commit supply mutation = .ok after →
    after.derivations.row (proofKey profile (engine.setting.assertionId fact.triple)
      (ruleName derivation.ruleId, derivation.premises)) = some row →
    ∃ candidate ∈ candidates engine.setting engine.owl
        ((engine.premiseFacts facts derivation).filter (· ≠ withdrawn)),
      engine.Accepts candidate ∧ candidate.conclusion = fact.triple

variable {engine : Engine I L D.AssertionId} {sources : List (Triple I L)}
  {facts : List (Fact I L D.AssertionId)} {fact : Fact I L D.AssertionId}
  {derivation : Inference.Derivation D.AssertionId} {profile : LedgerProfile D}
  {ruleName : RuleId → D.Name}

theorem revokedWithFacts (named : engine.PremisesSuffice facts fact derivation) :
    RevokedWithFacts profile ruleName engine facts fact derivation := by
  intro written before after supply mutation row withdrawn support recorded stored found root
    committed kept
  obtain ⟨current, row', _, resolved, stored', active, _⟩ := recorded
  rw [stored] at stored'
  cases stored'
  have unnamed : engine.setting.assertionId withdrawn ∉ derivation.premises := fun named =>
    commit_revokes committed root _ row kept active (mem_premiseRevisions resolved named found)
  have whole : (engine.premiseFacts facts derivation).filter (· ≠ withdrawn) =
      engine.premiseFacts facts derivation := by
    rw [filter_eq_self]
    intro triple member
    rw [decide_eq_true_eq]
    intro same
    subst same
    exact unnamed (of_decide_eq_true (mem_filter.mp member).2)
  rw [whole]
  exact named

end Closure

end Store

end Kestrel.AssertionStore
