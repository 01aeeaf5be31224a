import Kestrel.Storage.Planner

/-!
# The lifecycle mutations of the assertion store

Every mutation runs inside one transaction: it either fails and leaves the tables alone, or
commits the tables returned here. Replays of recorded operations are handled around them.
-/

namespace Kestrel.AssertionStore

variable {D : Domain}

structure AssertionWriteResult (D : Domain) where
  assertion : Assertion D
  generation : ℕ
  eventId : Option D.EventId
  idempotent : Bool
  deriving DecidableEq

structure SupersessionResult (D : Domain) where
  predecessor : Assertion D
  replacement : Assertion D
  generation : ℕ
  eventIds : List D.EventId
  invalidatedRevisionIds : List D.RevisionId
  idempotent : Bool
  deriving DecidableEq

/-- The states a withdrawal wrote over its roots and over their dependents. -/
structure WithdrawalResult (D : Domain) where
  roots : List (Assertion D)
  invalidated : List (Assertion D)
  invalidatedRevisionIds : List D.RevisionId
  generation : ℕ
  idempotent : Bool
  deriving DecidableEq

/-- The outcome of disabling one materialization engine. -/
structure InferenceRevocationResult where
  retractedAssertions : ℕ
  deactivatedDerivations : ℕ
  generation : ℕ
  deriving DecidableEq

/-- A conclusion of a closure with its recorded derivations, as the ledger write reads them. -/
structure PublishedFact (D : Domain) where
  assertionId : D.AssertionId
  derivations : List (D.Name × List D.AssertionId)
  deriving DecidableEq

/-- The profile whose proofs a ledger write records. -/
structure LedgerProfile (D : Domain) where
  key : D.Name
  ruleProfileVersion : D.Name
  deriving DecidableEq

namespace Store

section InitialWrites

/-- The checks of `_validate_initial_assertion_write`. -/
def validateInitialAssertionWrite (assertion : Assertion D) : Except StoreError Unit :=
  if assertion.status ≠ .active ∨ assertion.supersedesRevisionId ≠ none then
    .error (.store
      "put_assertion only accepts an initial active revision with no superseded predecessor")
  else .ok ()

/-- `_put_initial_assertion_in_mutation`. -/
def putInitialAssertion (supply : Supply D) (assertion : Assertion D)
    (sources : List (SourceOccurrence D)) (expectedGeneration : Option ℕ) (store : Store D) :
    Except StoreError (Store D × AssertionWriteResult D) :=
  if expectedGeneration ≠ none ∧ expectedGeneration ≠ some store.generation then
    .error (.conflict "validation generation is no longer current; revalidate before writing")
  else
    match store.revision assertion.revisionId with
    | some existing =>
      if existing = assertion then .ok (store, ⟨assertion, store.generation, none, true⟩)
      else .error
        (.conflict "revision_id is immutable and already stores a different assertion")
    | none =>
      match store.current assertion.assertionId with
      | some _ => .error (.conflict
          "append through supersede/retract; put_assertion only creates an initial revision")
      | none => do
        let store ← store.storeSources sources
        store.validateLineage assertion sources
        let store ← store.writeRevision assertion
        let store := (store.setCurrent assertion).advanceGeneration
        pure (store.event (supply.eventUuid4 0) assertion "accepted" true,
          ⟨assertion, store.generation, some (supply.eventUuid4 0), false⟩)

def putAssertion (supply : Supply D) (assertion : Assertion D)
    (sources : List (SourceOccurrence D)) (expectedGeneration : Option ℕ) (store : Store D) :
    Except StoreError (Store D × AssertionWriteResult D) := do
  validateInitialAssertionWrite assertion
  store.putInitialAssertion supply assertion sources expectedGeneration

def publishInferredAssertion (supply : Supply D) (assertion : Assertion D) (store : Store D) :
    Except StoreError (Store D × AssertionWriteResult D) :=
  if assertion.status ≠ .active ∨ assertion.epistemicState ≠ .inferred ∨
      assertion.lineage.isDirect then
    .error (.store
      "inference publication requires an active inferred assertion with derived lineage")
  else do
    validateInitialAssertionWrite assertion
    store.putInitialAssertion supply assertion [] none

def reactivateInferred (supply : Supply D) (assertion : Assertion D) (store : Store D) :
    Except StoreError (Store D × AssertionWriteResult D) :=
  if assertion.status ≠ .active ∨ assertion.epistemicState ≠ .inferred ∨
      assertion.lineage.isDirect then
    .error (.store "reactivate_inferred requires an active inferred derived assertion")
  else
    match store.current assertion.assertionId with
    | none => .error
        (.conflict "reactivation requires an existing inferred assertion identity")
    | some current =>
      if current.status = .active then
        if current.epistemicState = .inferred then
          .ok (store, ⟨current, store.generation, none, true⟩)
        else .error (.conflict "inference cannot replace an active direct assertion")
      else if current.status ≠ .retracted ∨ current.epistemicState ≠ .retracted ∨
          current.lineage.isDirect then
        .error (.conflict "inference cannot reactivate a non-derived assertion identity")
      else do
        store.validateLineage assertion []
        let store ← store.writeRevision assertion
        let store := (store.setCurrent assertion).advanceGeneration
        pure (store.event (supply.eventUuid4 0) assertion "inferred" true,
          ⟨assertion, store.generation, some (supply.eventUuid4 0), false⟩)

end InitialWrites

section Withdrawals

/-- The compare-and-swap guard of the withdrawals. -/
def expectedActiveCurrent (assertionId : D.AssertionId) (expectedRevisionId : D.RevisionId)
    (store : Store D) : Except StoreError (Assertion D) :=
  match store.current assertionId with
  | none => .error
      (.conflict "expected revision is not the active current tenant assertion")
  | some current =>
    if current.revisionId ≠ expectedRevisionId ∨ current.status ≠ .active then
      .error (.conflict "expected revision is not the active current tenant assertion")
    else .ok current

def retireAll (supply : Supply D) (deactivateInferenceDerivations : Bool)
    (status : AssertionStatus) (epistemicState : Option EpistemicState) :
    List (Assertion D) → ℕ → Store D → Except StoreError (Store D × List (Assertion D))
  | [], _, store => .ok (store, [])
  | item :: items, draw, store => do
    let (store, state) ←
      (store.invalidateEligibility item.revisionId deactivateInferenceDerivations).writeState
        supply draw item status none epistemicState
    let (store, states) ←
      retireAll supply deactivateInferenceDerivations status epistemicState items (draw + 1) store
    pure (store, state :: states)

/-- Invalidate the dependents of a withdrawal and make each current as retracted. -/
def retractDependents (supply : Supply D) (deactivateInferenceDerivations : Bool)
    (dependents : List (Assertion D)) (draw : ℕ) (store : Store D) :
    Except StoreError (Store D × List (Assertion D)) :=
  retireAll supply deactivateInferenceDerivations .retracted (some .retracted) dependents draw store

def quarantineRoots (supply : Supply D) (roots : List (Assertion D)) (draw : ℕ)
    (store : Store D) : Except StoreError (Store D × List (Assertion D)) :=
  retireAll supply true .quarantined none roots draw store

def writeTerminal (supply : Supply D) (root : Assertion D)
    (terminal : Option (AssertionStatus × Option EpistemicState)) (store : Store D) :
    Except StoreError (Store D × List (Assertion D)) :=
  match terminal with
  | none => .ok (store, [])
  | some (status, epistemicState) => do
    let (store, state) ← store.writeState supply 0 root status none epistemicState
    pure (store, [state])

/-- Withdraw the eligibility of a root, write its terminal state if it gets one, and retract
the conclusions that the withdrawal leaves without a grounded proof. -/
def withdrawRoot (supply : Supply D) (root : Assertion D)
    (terminal : Option (AssertionStatus × Option EpistemicState)) (store : Store D) :
    Except StoreError (Store D × WithdrawalResult D) := do
  let store := store.invalidateEligibility root.revisionId true
  let (store, dependents) := store.dependentCurrentRevisions [root.revisionId]
  let dependents := dependents.filter fun dependent => dependent.status = .active
  let (store, roots) ← store.writeTerminal supply root terminal
  let (store, states) ← store.retractDependents supply true dependents 1
  pure (store.advanceGeneration, ⟨roots, states,
    root.revisionId :: dependents.map (·.revisionId), store.generation + 1, false⟩)

def retract (supply : Supply D) (assertionId : D.AssertionId) (expectedRevisionId : D.RevisionId)
    (store : Store D) : Except StoreError (Store D × WithdrawalResult D) := do
  let current ← store.expectedActiveCurrent assertionId expectedRevisionId
  let (store, result) ← store.withdrawRoot supply current (some (.retracted, some .retracted))
  pure (events supply "retracted" (result.roots ++ result.invalidated) 0 store, result)

def delete (supply : Supply D) (assertionId : D.AssertionId) (expectedRevisionId : D.RevisionId)
    (store : Store D) : Except StoreError (Store D × WithdrawalResult D) := do
  let current ← store.expectedActiveCurrent assertionId expectedRevisionId
  let (store, result) ← store.withdrawRoot supply current (some (.deleted, none))
  pure (events supply "retracted" result.invalidated 1
    (events supply "deleted" result.roots 0 store), result)

/-- `invalidate_assertion_eligibility`. The source statement stays current. -/
def invalidateAssertionEligibility (supply : Supply D) (assertionId : D.AssertionId)
    (expectedRevisionId : D.RevisionId) (store : Store D) :
    Except StoreError (Store D × WithdrawalResult D) := do
  let current ← store.expectedActiveCurrent assertionId expectedRevisionId
  let (store, result) ← store.withdrawRoot supply current none
  pure (events supply "retracted" result.invalidated 1
    (store.event (supply.eventUuid4 0) current "validation_ineligible" false), result)

/-- The guard of a batch quarantine on all its targets. -/
def expectedActiveTargets (targets : List (D.AssertionId × D.RevisionId)) (store : Store D) :
    Except StoreError (List (Assertion D)) :=
  targets.mapM fun target =>
    match store.current target.1 with
    | none => .error
        (.conflict "validation target is no longer the expected active tenant assertion")
    | some current =>
      if current.revisionId ≠ target.2 ∨ current.status ≠ .active then
        .error
          (.conflict "validation target is no longer the expected active tenant assertion")
      else .ok current

/-- Quarantine roots, and retract the conclusions this leaves without a grounded proof. -/
def quarantineCurrent (supply : Supply D) (roots : List (Assertion D)) (store : Store D) :
    Except StoreError (Store D × WithdrawalResult D) := do
  let rootRevisionIds := roots.map (·.revisionId)
  let (store, dependents) := store.dependentCurrentRevisions rootRevisionIds
  let dependents := dependents.filter fun dependent =>
    dependent.status = .active ∧ dependent.revisionId ∉ rootRevisionIds
  let (store, quarantined) ← store.quarantineRoots supply roots 0
  let (store, states) ← store.retractDependents supply true dependents roots.length
  let store := if roots = [] then store else store.advanceGeneration
  pure (events supply "retracted" states quarantined.length
      (events supply "validation_quarantined" quarantined 0 store),
    ⟨quarantined, states, rootRevisionIds ++ dependents.map (·.revisionId), store.generation,
      false⟩)

def quarantineForValidation (supply : Supply D) (assertionId : D.AssertionId)
    (expectedRevisionId : D.RevisionId) (store : Store D) :
    Except StoreError (Store D × WithdrawalResult D) := do
  let current ← store.expectedActiveCurrent assertionId expectedRevisionId
  store.quarantineCurrent supply [current]

/-- `persist_validation_report_and_quarantine`, without the report's own tables. The targets
are distinct assertions. -/
def quarantineReportTargets (supply : Supply D) (targets : List (D.AssertionId × D.RevisionId))
    (store : Store D) : Except StoreError (Store D × WithdrawalResult D) := do
  let roots ← store.expectedActiveTargets targets
  store.quarantineCurrent supply roots

def materializedBy (engineVersion : D.Name) (store : Store D) : List (Assertion D) :=
  ((store.currentRows.map (·.assertion)).filter fun assertion =>
    assertion.status = .active ∧ assertion.epistemicState = .inferred ∧
      assertion.lineage.engineVersion = some engineVersion).insertionSort
        (·.assertionId ≤ ·.assertionId)

def activeProofsOf (revisionIds : List D.RevisionId) (store : Store D) : List D.DerivationId :=
  (store.activeDerivations.filter (·.2.derivedRevisionId ∈ revisionIds)).map Prod.fst

def revokeSemanticInference (supply : Supply D) (engineVersion : D.Name) (store : Store D) :
    Except StoreError (Store D × InferenceRevocationResult) := do
  let selected := store.materializedBy engineVersion
  if selected = [] then .ok (store, ⟨0, 0, store.generation⟩)
  else do
    let disabled := store.activeProofsOf (selected.map (·.revisionId))
    let store := store.deactivateInferenceDerivationIds disabled
    let (store, dependents) := store.dependentCurrentRevisions (selected.map (·.revisionId))
    let retracted := ((selected ++ dependents.filter fun dependent =>
      dependent.revisionId ∉ selected.map (·.revisionId)).filter fun assertion =>
        assertion.status = .active).insertionSort (·.revisionId ≤ ·.revisionId)
    let deactivated :=
      (disabled ++ store.activeProofsOf (retracted.map (·.revisionId))).dedup
    let store := store.deactivateInferenceDerivationIds deactivated
    let (store, states) ← store.retractDependents supply true retracted 0
    let store := store.advanceGeneration
    pure (events supply "retracted" states 0 store,
      ⟨states.length, deactivated.length, store.generation⟩)

end Withdrawals

section Replacements

/-- A prospective supersession's plan: the predecessor, the dependents and the proofs that
leave with it. -/
structure SupersessionLifecyclePlan (D : Domain) where
  predecessor : Assertion D
  dependentAssertions : List (Assertion D)
  withdrawnRevisionIds : List D.RevisionId
  deactivatedDerivationIds : List D.DerivationId

def planSupersessionLifecycle (expectedPredecessorRevisionId : D.RevisionId)
    (replacement : Assertion D) (store : Store D) :
    Except StoreError (SupersessionLifecyclePlan D) :=
  match store.revision expectedPredecessorRevisionId with
  | none => .error (.conflict "expected predecessor is not an active tenant revision")
  | some predecessor =>
    if predecessor.status ≠ .active then
      .error (.conflict "expected predecessor is not an active tenant revision")
    else if (store.current predecessor.assertionId).map (·.revisionId) ≠
        some expectedPredecessorRevisionId then
      .error (.conflict "expected predecessor is no longer the current revision")
    else if replacement.supersedesRevisionId ≠ none ∧
        replacement.supersedesRevisionId ≠ some expectedPredecessorRevisionId then
      .error (.store "replacement cannot name an unrelated superseded revision")
    else
      let plan := store.planDependentCurrentRevisions [expectedPredecessorRevisionId]
      .ok ⟨predecessor, plan.1,
        expectedPredecessorRevisionId :: plan.1.map (·.revisionId), plan.2⟩

/-- `_supersede_in_mutation`. -/
def supersede (supply : Supply D) (expectedPredecessorRevisionId : D.RevisionId)
    (replacement : Assertion D) (sources : List (SourceOccurrence D))
    (expectedGeneration : Option ℕ) (store : Store D) :
    Except StoreError (Store D × SupersessionResult D) :=
  if replacement.status ≠ .active then
    .error (.store "a supersession replacement must be active")
  else if expectedGeneration ≠ none ∧ expectedGeneration ≠ some store.generation then
    .error
      (.conflict "validation generation is no longer current; revalidate before superseding")
  else do
    let store ← store.storeSources sources
    store.validateLineage replacement sources
    let plan ← store.planSupersessionLifecycle expectedPredecessorRevisionId replacement
    let predecessorState ← assertionWith plan.predecessor (supply.uuid4 0) (supply.now 0)
      .superseded (some expectedPredecessorRevisionId) none
    let replacementState ← Assertion.fromMapping
      { replacement.toAssertionMapping with
        supersedesRevisionId := some predecessorState.revisionId }
    let store := store.deactivateInferenceDerivationIds plan.deactivatedDerivationIds
    let (store, dependentStates) ← store.retractDependents supply false
      (plan.dependentAssertions.filter fun dependent => dependent.status = .active) 1
    let store := store.invalidateEligibility expectedPredecessorRevisionId false
    let store ← store.writeRevision predecessorState
    let store := store.setCurrent predecessorState
    let store ← store.writeRevision replacementState
    let store := (store.setCurrent replacementState).advanceGeneration
    let store := store.event (supply.eventUuid4 0) predecessorState "superseded" false
    let store := store.event (supply.eventUuid4 1) replacementState "accepted" true
    let store := events supply "retracted" dependentStates 2 store
    pure (store, ⟨predecessorState, replacementState, store.generation,
      (List.range (dependentStates.length + 2)).map supply.eventUuid4,
      plan.withdrawnRevisionIds, false⟩)

/-- The request checks of `_validate_restoration`. -/
def validateRestoration (replacement : Assertion D) (sources : List (SourceOccurrence D)) :
    Except StoreError (SourceOccurrence D) :=
  match replacement.lineage, sources with
  | .direct sourceOccurrenceIds, [source] =>
    if replacement.status ≠ .active ∨ replacement.supersedesRevisionId ≠ none then
      .error (.store "restoration requires an initial-form active direct replacement")
    else if sourceOccurrenceIds.ids ≠ [source.sourceOccurrenceId] ∨
        replacement.revisionId ≠ D.sourceRevisionId source.sourceOccurrenceId then
      .error (.store "restoration requires exactly one fresh attached source revision")
    else if D.exactSaveFactProposal replacement.content source.sourceOccurrenceId
        source.body = false then
      .error (.store "restoration is restricted to an exact save_fact proposal")
    else .ok source
  | .derived _, _ =>
    .error (.store "restoration requires an initial-form active direct replacement")
  | .direct _, _ =>
    .error (.store "restoration requires exactly one fresh attached source revision")

/-- `plan_restoration_lifecycle`, up to the post-state it returns for validation. -/
def planRestorationLifecycle (expectedTerminalRevisionId : D.RevisionId)
    (replacement : Assertion D) (store : Store D) : Except StoreError (Assertion D) :=
  match store.revision expectedTerminalRevisionId with
  | none => .error (.conflict "expected predecessor is not a restorable deleted direct revision")
  | some predecessor =>
    if predecessor.status ≠ .deleted ∨ predecessor.lineage.isDirect = false ∨
        replacement.lineage.isDirect = false ∨
        predecessor.assertionId ≠ replacement.assertionId then
      .error (.conflict "expected predecessor is not a restorable deleted direct revision")
    else if (store.current predecessor.assertionId).map (·.revisionId) ≠
        some expectedTerminalRevisionId then
      .error (.conflict "expected terminal predecessor is no longer current")
    else if replacement.supersedesRevisionId ≠ none ∧
        replacement.supersedesRevisionId ≠ some expectedTerminalRevisionId then
      .error (.store "restoration cannot name an unrelated superseded revision")
    else if predecessor.content ≠ replacement.content then
      .error (.store "restoration cannot alter canonical claim or policy metadata")
    else .ok predecessor

/-- `_restore_in_mutation`. -/
def restore (supply : Supply D) (expectedTerminalRevisionId : D.RevisionId)
    (replacement : Assertion D) (sources : List (SourceOccurrence D))
    (expectedGeneration : Option ℕ) (store : Store D) :
    Except StoreError (Store D × SupersessionResult D) := do
  let source ← validateRestoration replacement sources
  if expectedGeneration ≠ none ∧ expectedGeneration ≠ some store.generation then
    .error (.conflict "validation generation is no longer current; revalidate before restoring")
  else do
    let predecessor ← store.planRestorationLifecycle expectedTerminalRevisionId replacement
    if (store.sources.row source.sourceOccurrenceId).isSome then
      .error (.conflict "restoration source occurrence was already accepted")
    else do
      let store ← store.storeSources sources
      store.validateLineage replacement sources
      let replacementState ← Assertion.fromMapping
        { replacement.toAssertionMapping with
          supersedesRevisionId := some expectedTerminalRevisionId }
      let store ← store.writeRevision replacementState
      let store := (store.setCurrent replacementState).advanceGeneration
      let store := store.event (supply.eventUuid4 0) replacementState "accepted" true
      pure (store, ⟨predecessor, replacementState, store.generation, [supply.eventUuid4 0], [],
        false⟩)

end Replacements

section Ledger

def premiseRevisions (store : Store D) (premises : List D.AssertionId) :
    Except StoreError (List D.RevisionId) :=
  premises.mapM fun premise =>
    match store.getAssertion premise with
    | none => .error (.inference "active closure premise disappeared during ledger write")
    | some assertion => .ok assertion.revisionId

/-- Record one proof of a conclusion as an active ledger row. A row of the same key keeps its
profile version. -/
def writeActiveDerivation (profile : LedgerProfile D) (assertionId : D.AssertionId)
    (revisionId : D.RevisionId) (store : Store D) (derivation : D.Name × List D.AssertionId) :
    Except StoreError (Store D) := do
  let premises ← store.premiseRevisions derivation.2
  let derivationId := D.derivationId profile.key assertionId derivation.1 derivation.2
  let ruleProfileVersion :=
    ((store.derivations.row derivationId).map (·.ruleProfileVersion)).getD
      profile.ruleProfileVersion
  if premises.Nodup then
    pure { store with
      derivations := store.derivations.insert derivationId
        { derivedAssertionId := assertionId
          derivedRevisionId := revisionId
          ruleId := derivation.1
          profileKey := profile.key
          ruleProfileVersion := ruleProfileVersion
          inputRevisionIds := premises
          active := true } }
  else .error (.inference "UNIQUE constraint failed: semantic_inference_derivation_inputs")

/-- Record the proofs of one conclusion, if it is an active inferred assertion. -/
def writeFactDerivations (profile : LedgerProfile D) (store : Store D)
    (fact : PublishedFact D) : Except StoreError (Store D) :=
  match store.getAssertion fact.assertionId with
  | none => .ok store
  | some current =>
    if current.epistemicState ≠ .inferred then .ok store
    else fact.derivations.foldlM
      (writeActiveDerivation profile fact.assertionId current.revisionId) store

def activeDerivationMembership (profile : LedgerProfile D) (store : Store D) :
    List (D.DerivationId × D.AssertionId × D.RevisionId × List D.RevisionId) :=
  (store.activeDerivations.filter (·.2.profileKey = profile.key)).map fun derivation =>
    (derivation.1, derivation.2.derivedAssertionId, derivation.2.derivedRevisionId,
      derivation.2.inputRevisionIds)

def writeActiveDerivations (profile : LedgerProfile D) (facts : List (PublishedFact D))
    (replace : Bool) (store : Store D) : Except StoreError (Store D) := do
  let beforeMembership := store.activeDerivationMembership profile
  let store := if replace then
      { store with
        derivations := store.derivations.adjust fun _ derivation =>
          if derivation.profileKey = profile.key then { derivation with active := false }
          else derivation }
    else store
  let store ← (facts.insertionSort (·.assertionId ≤ ·.assertionId)).foldlM
    (writeFactDerivations profile) store
  if beforeMembership ≠ store.activeDerivationMembership profile then
    pure store.advanceGeneration
  else pure store

end Ledger

end Store

end Kestrel.AssertionStore
