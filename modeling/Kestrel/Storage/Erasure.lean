import Kestrel.Storage.Lifecycle
import Mathlib.Data.Finset.Sort

/-!
# Physical erasure

Erasing an assertion follows the lineages that name its revisions. A current conclusion that the
worklist reaches is re-lined on another proof, or dropped together with all its revisions. When
nothing is pending, the ledger is reconciled and the collected rows are deleted.
-/

namespace Kestrel.AssertionStore

variable {D : Domain}

/-- A stored revision whose lineage names a revision of the batch, with its assertion's current
revision. -/
structure DependentRow (D : Domain) where
  derivedAssertionId : D.AssertionId
  derivedRevisionId : D.RevisionId
  currentRevisionId : D.RevisionId
  deriving DecidableEq

/-- The variables of an erasure's worklist, with the tables it writes. -/
structure Erasure (D : Domain) where
  store : Store D
  revisionIds : Finset D.RevisionId
  assertionIds : Finset D.AssertionId
  pending : Finset D.RevisionId
  refreshedRevisionIds : Table D.RevisionId D.RevisionId
  draws : ℕ

structure ErasureResult (D : Domain) where
  erasedAssertionIds : List D.AssertionId
  erasedRevisionIds : List D.RevisionId
  generation : ℕ
  idempotent : Bool
  deriving DecidableEq

namespace Store

variable (store : Store D)

def revisionsOf (assertionId : D.AssertionId) : List D.RevisionId :=
  ((store.revisions.rows.filter fun row => row.2.assertion.assertionId = assertionId).map
    Prod.fst).insertionSort (· ≤ ·)

/-- The stored revisions whose lineage names a revision of the batch, in the order of assertions
and revisions. -/
def dependentRows (batch : Finset D.RevisionId) : List (DependentRow D) :=
  (store.revisions.rows.filterMap fun row =>
    if row.2.assertion.lineage.inputRevisionIds.any (· ∈ batch) then
      (store.currents.row row.2.assertion.assertionId).map fun current =>
        ⟨row.2.assertion.assertionId, row.1, current⟩
    else none).insertionSort fun first second =>
      first.derivedAssertionId < second.derivedAssertionId ∨
        first.derivedAssertionId = second.derivedAssertionId ∧
          first.derivedRevisionId ≤ second.derivedRevisionId

end Store

def Lineage.sourceOccurrenceIds : Lineage D → List D.SourceId
  | .direct sourceOccurrenceIds => sourceOccurrenceIds.ids
  | .derived _ => []

def Assertion.withoutPredecessor (assertion : Assertion D) : Assertion D where
  toAssertionMapping := { assertion.toAssertionMapping with supersedesRevisionId := none }
  valid := by
    have valid := assertion.valid
    unfold AssertionMapping.failure at valid ⊢
    split at valid
    · cases valid
    split at valid
    · cases valid
    rw [if_neg (fun same => by cases same), if_neg (fun linked => linked.2 rfl)]
    exact valid

namespace Erasure

section Worklist

variable (supply : Supply D) (erasure : Erasure D)

def start (store : Store D) (assertionId : D.AssertionId) : Except StoreError (Erasure D) :=
  if store.revisionsOf assertionId = [] then
    .error (.conflict "assertion is absent from the bound tenant")
  else .ok
    { store := store
      revisionIds := (store.revisionsOf assertionId).toFinset
      assertionIds := {assertionId}
      pending := (store.revisionsOf assertionId).toFinset
      refreshedRevisionIds := .empty
      draws := 1 }

/-- Collect a revision and make it pending, unless it was collected before. -/
def enqueue (revisionId : D.RevisionId) : Erasure D :=
  if revisionId ∈ erasure.revisionIds then erasure
  else { erasure with
    revisionIds := insert revisionId erasure.revisionIds
    pending := insert revisionId erasure.pending }

def enqueueAll (revisionIds : List D.RevisionId) : Erasure D :=
  revisionIds.foldl enqueue erasure

/-- The refreshed revision of a premise, or the premise itself. -/
def resolve (revisionId : D.RevisionId) : D.RevisionId :=
  (erasure.refreshedRevisionIds.row revisionId).getD revisionId

def resolvedInputs (inputRevisionIds : List D.RevisionId) : Option (List D.RevisionId) :=
  if ¬ (inputRevisionIds.map erasure.resolve).Nodup then none
  else if ∀ original ∈ inputRevisionIds,
      ¬ (original ∈ erasure.revisionIds ∧
        erasure.refreshedRevisionIds.row original = none) ∧
      erasure.resolve original ∉ erasure.revisionIds ∧
      erasure.store.isCurrentActiveEligibleRevision (erasure.resolve original) = true then
    some (inputRevisionIds.map erasure.resolve)
  else none

/-- The lineage of a conclusion on a proof's resolved inputs. -/
def relinedLineage (lineage : DerivedLineage D) (ruleId profileVersion : D.Name)
    (inputs : List D.RevisionId) (reference : Option D.DerivationId) :
    Except StoreError (DerivedLineage D) := do
  let inputRevisionIds ← uniqueIdentifiers inputs "input_revision_ids"
  pure
    { ruleId := ruleId
      engineVersion := lineage.engineVersion
      profileVersion := profileVersion
      inputRevisionIds := inputRevisionIds
      evidence := D.relinedEvidence lineage.evidence inputs (supply.uuid4 0)
        (supply.now erasure.draws) reference }

/-- The active ledger proofs of a revision, in key order. -/
def recordedProofs (revisionId : D.RevisionId) : List (D.DerivationId × Derivation D) :=
  erasure.store.activeDerivations.filter fun proof => proof.2.derivedRevisionId = revisionId

def firstResolvedProof (revisionId : D.RevisionId) :
    Option ((D.DerivationId × Derivation D) × List D.RevisionId) :=
  (erasure.recordedProofs revisionId).findSome? fun proof =>
    (erasure.resolvedInputs proof.2.inputRevisionIds).map fun inputs => (proof, inputs)

/-- `_erasure_replacement_lineage`. -/
def replacementLineage (assertion : Assertion D) :
    Except StoreError (Option (DerivedLineage D)) :=
  match assertion.lineage with
  | .direct _ => .ok none
  | .derived lineage =>
    match erasure.resolvedInputs lineage.inputRevisionIds.ids with
    | some primaryInputs => do
      let relined ← relinedLineage supply erasure lineage lineage.ruleId
        lineage.profileVersion primaryInputs none
      pure (some relined)
    | none =>
      match erasure.firstResolvedProof assertion.revisionId with
      | none => .ok none
      | some (proof, inputs) => do
        let relined ← relinedLineage supply erasure lineage proof.2.ruleId
          proof.2.ruleProfileVersion inputs (some proof.1)
        pure (some relined)

/-- `_freshen_inferred_for_erasure`. -/
def freshenInferred (assertion : Assertion D) (lineage : DerivedLineage D) :
    Except StoreError (Store D × Assertion D) :=
  if assertion.status ≠ .active ∨ assertion.epistemicState ≠ .inferred ∨
      assertion.lineage.isDirect then
    .error (.store "only an active inferred assertion can be re-lined for erasure")
  else do
    let replacement ← Assertion.fromMapping
      { assertion.toAssertionMapping with
        revisionId := supply.uuid4 erasure.draws
        status := .active
        epistemicState := .inferred
        supersedesRevisionId := none
        assertedAt := supply.now erasure.draws
        lineage := .derived lineage }
    erasure.store.validateLineage replacement []
    let store ← (erasure.store.invalidateEligibility assertion.revisionId false).writeRevision
      replacement
    pure (store.setCurrent replacement, replacement)

/-- Re-line a current conclusion: collect its revisions and publish a fresh one. -/
def reline (current : Assertion D) (lineage : DerivedLineage D) :
    Except StoreError (Erasure D) := do
  let collected := erasure.enqueueAll (erasure.store.revisionsOf current.assertionId)
  let (store, replacement) ← collected.freshenInferred supply current lineage
  pure { collected with
    store := store
    refreshedRevisionIds :=
      collected.refreshedRevisionIds.insert current.revisionId replacement.revisionId
    draws := collected.draws + 1 }

/-- Drop a conclusion: collect it and its revisions. -/
def drop (assertionId : D.AssertionId) : Erasure D :=
  { erasure with assertionIds := insert assertionId erasure.assertionIds }.enqueueAll
    (erasure.store.revisionsOf assertionId)

/-- Re-line a current conclusion on a proof that resolves, or drop it. -/
def relineOrDrop (row : DependentRow D) : Except StoreError (Erasure D) :=
  match erasure.store.current row.derivedAssertionId with
  | none => .error (.store "current assertion changed during serialized erasure")
  | some current =>
    if current.revisionId ≠ row.derivedRevisionId then
      .error (.store "current assertion changed during serialized erasure")
    else do
      let replacement ← replacementLineage supply erasure current
      match replacement with
      | some lineage => erasure.reline supply current lineage
      | none => pure (erasure.drop row.derivedAssertionId)

/-- One row of a batch. A revision that is no longer current is only collected. -/
def processRow (row : DependentRow D) : Except StoreError (Erasure D) :=
  let collected := erasure.enqueue row.derivedRevisionId
  if row.currentRevisionId ≠ row.derivedRevisionId then .ok collected
  else if row.derivedAssertionId ∈ collected.assertionIds then
    .ok (collected.enqueueAll (collected.store.revisionsOf row.derivedAssertionId))
  else collected.relineOrDrop supply row

def batchRows : List (DependentRow D) := erasure.store.dependentRows erasure.pending

def round : Except StoreError (Erasure D) :=
  erasure.batchRows.foldlM (fun erasure row => erasure.processRow supply row)
    { erasure with pending := ∅ }

/-- A number of rounds of the worklist. -/
def rounds : ℕ → Erasure D → Except StoreError (Erasure D)
  | 0, erasure => .ok erasure
  | count + 1, erasure =>
    if erasure.pending = ∅ then .ok erasure
    else do
      let next ← erasure.round supply
      rounds count next

end Worklist

section Deletion

variable (erasure : Erasure D)

/-- The revision is erased and has no refreshed one. -/
def Lost (revisionId : D.RevisionId) : Prop :=
  revisionId ∈ erasure.revisionIds ∧ erasure.refreshedRevisionIds.row revisionId = none

instance (revisionId : D.RevisionId) : Decidable (erasure.Lost revisionId) :=
  inferInstanceAs (Decidable (_ ∧ _))

/-- A ledger proof after its conclusion and its premises were refreshed. -/
def retarget (derivation : Derivation D) : Derivation D :=
  { derivation with
    derivedRevisionId := erasure.resolve derivation.derivedRevisionId
    inputRevisionIds := derivation.inputRevisionIds.map erasure.resolve }

/-- The proof names an erased revision without a refreshed one. -/
def losesProof (derivation : Derivation D) : Bool :=
  decide (erasure.Lost derivation.derivedRevisionId) ||
    derivation.inputRevisionIds.any fun input => erasure.Lost input

/-- `_reconcile_inference_derivations_after_erasure`. A proof that names no erased revision
resolves to itself. -/
def reconcileDerivations : Except StoreError (Store D) := do
  erasure.store.derivations.rows.forM fun row =>
    if ¬ erasure.losesProof row.2 ∧ erasure.retarget row.2 ≠ row.2 ∧
        ¬ (erasure.retarget row.2).inputRevisionIds.Nodup then
      .error (.store "erasure rematerialization produced duplicate derivation inputs")
    else .ok ()
  pure { erasure.store with
    derivations := (erasure.store.derivations.keep fun _ derivation =>
      !erasure.losesProof derivation).adjust fun _ derivation => erasure.retarget derivation }

/-- Remove the predecessor links into the erased revisions. -/
def sanitize (_ : D.RevisionId) (row : RevisionRow D) : RevisionRow D :=
  if row.assertion.supersedesRevisionId.any (· ∈ erasure.revisionIds) then
    { row with assertion := row.assertion.withoutPredecessor }
  else row

/-- The sources of the erased revisions that no surviving revision is attached to. -/
def orphanedSources : List D.SourceId :=
  let attached := fun rows : List (D.RevisionId × RevisionRow D) =>
    rows.flatMap fun row => row.2.assertion.lineage.sourceOccurrenceIds
  let rows := erasure.store.revisions.rows
  (attached (rows.filter fun row => row.1 ∈ erasure.revisionIds)).filter
    (· ∉ attached (rows.filter fun row => row.1 ∉ erasure.revisionIds))

/-- The deletions of `erase`, after the worklist. -/
def finish : Except StoreError (Store D × ErasureResult D) := do
  let store ← erasure.reconcileDerivations
  pure ({ store with
      revisions := (store.revisions.keep fun revisionId _ =>
        revisionId ∉ erasure.revisionIds).adjust erasure.sanitize
      currents := store.currents.keep fun assertionId _ => assertionId ∉ erasure.assertionIds
      derivations := store.derivations.keep fun _ derivation =>
        derivation.derivedRevisionId ∉ erasure.revisionIds ∧
          ∀ input ∈ derivation.inputRevisionIds, input ∉ erasure.revisionIds
      sources := store.sources.keep fun sourceId _ => sourceId ∉ erasure.orphanedSources
      outbox := store.outbox.filter fun event => event.revisionId ∉ erasure.revisionIds
      generation := store.generation + 1 },
    ⟨erasure.assertionIds.sort, erasure.revisionIds.sort, store.generation + 1, false⟩)

end Deletion

end Erasure

/-- `erase`, with at most a number of rounds of its worklist. -/
def Store.erase (supply : Supply D) (assertionId : D.AssertionId) (limit : ℕ) (store : Store D) :
    Except StoreError (Option (Store D × ErasureResult D)) := do
  let erasure ← Erasure.start store assertionId
  let erasure ← Erasure.rounds supply limit erasure
  if erasure.pending = ∅ then do
    let erased ← erasure.finish
    pure (some erased)
  else pure none

end Kestrel.AssertionStore
