import Kestrel.Storage.ActiveGraph

/-!
# The ledger of semantic operations

Every mutation under an operation id records a receipt, and a governed write commits its
validation report in the same transaction. A later delivery of the operation is answered from the
receipt. An erasure leaves a tombstone in the place of every receipt that names what it erased.
-/

namespace Kestrel.AssertionStore

variable {D : Domain}

/-- The identifiers and digests of a tenant's operations and validation reports. -/
structure Governance (D : Domain) where
  OperationId : Type
  ReportId : Type
  Digest : Type
  [operationDecidable : DecidableEq OperationId]
  [reportDecidable : DecidableEq ReportId]
  [digestDecidable : DecidableEq Digest]
  /-- `_operation_digest` of the request of a governed write. -/
  digest : GovernedWrite D → Digest
  /-- The operation id of a request without one: `revision:…`, `supersede:…` or `restore:…`. -/
  resolvedOperationId : GovernedWrite D → OperationId
  /-- `validation-report-quarantine:{report_id}`. -/
  quarantineOperationId : ReportId → OperationId
  quarantineDigest : ReportId → List (D.AssertionId × D.RevisionId) → Digest

attribute [instance] Governance.operationDecidable Governance.reportDecidable
  Governance.digestDecidable

variable {G : Governance D}

inductive ValidationState where
  | conforms
  | nonconformant
  | incomplete
  deriving DecidableEq, Repr

inductive ValidationWriteAction where
  | accept
  | acceptWithReport
  | reject
  | quarantine
  deriving DecidableEq, Repr

/-- The action lets a candidate become canonical. -/
def ValidationWriteAction.accepts : ValidationWriteAction → Bool
  | .accept | .acceptWithReport => true
  | .reject | .quarantine => false

/-- What the validator decides about a graph. A finding is the list of the assertions it
affects, and only a conformant graph is accepted. -/
structure Verdict (G : Governance D) where
  reportId : G.ReportId
  state : ValidationState
  action : ValidationWriteAction
  findings : List (List D.AssertionId)
  consistent : action.accepts = decide (state = .conforms)
  deriving DecidableEq

structure ShaclValidationReport (G : Governance D) extends Verdict G where
  assertionIds : List D.AssertionId
  checkpointGeneration : ℕ
  deriving DecidableEq

namespace ShaclValidationReport

def withoutAssertionIdentity (report : ShaclValidationReport G) : ShaclValidationReport G :=
  { report with
    assertionIds := []
    findings := report.findings.map fun _ => [] }

/-- `_validation_report_targets`. A finding without assertions affects those of the report. -/
def targets (report : ShaclValidationReport G) : List D.AssertionId :=
  let affected := report.findings.flatten
  let affected :=
    if affected = [] ∨ [] ∈ report.findings then affected ++ report.assertionIds else affected
  affected.dedup.insertionSort (· ≤ ·)

end ShaclValidationReport

/-- What a mutation's receipt is recorded for. -/
inductive Purpose (D : Domain) where
  | put
  | supersede
  | restore
  | quarantine
  | other (operation : D.Name)
  deriving DecidableEq

/-- The receipt that the ledger keeps of a mutation. -/
inductive Receipt (D : Domain) where
  | put (revisionId : D.RevisionId) (generation : ℕ) (eventId : Option D.EventId)
  | supersede (predecessorRevisionId replacementRevisionId : D.RevisionId) (generation : ℕ)
      (eventIds : List D.EventId) (invalidatedRevisionIds : List D.RevisionId)
  | restore (predecessorRevisionId replacementRevisionId : D.RevisionId) (generation : ℕ)
      (eventIds : List D.EventId)
  | quarantine (quarantinedRevisionIds invalidationStateRevisionIds : List D.RevisionId)
      (generation : ℕ)
  | other (operation : D.Name)
  deriving DecidableEq

def Receipt.purpose : Receipt D → Purpose D
  | .put .. => .put
  | .supersede .. => .supersede
  | .restore .. => .restore
  | .quarantine .. => .quarantine
  | .other operation => .other operation

structure OperationRow (G : Governance D) where
  receipt : Receipt D
  digest : G.Digest
  validationReportId : Option G.ReportId
  assertionIds : List D.AssertionId
  revisionIds : List D.RevisionId

/-- A tenant's canonical tables, with the operations and reports that commit along with them. -/
structure Ledger (G : Governance D) where
  store : Store D
  operations : G.OperationId → Option (OperationRow G)
  /-- The operations whose receipts were erased, by purpose and request. -/
  tombstones : G.OperationId → Option (Purpose D × G.Digest)
  /-- The operation ids of the erasures. -/
  erasures : List G.OperationId
  reports : G.ReportId → Option (ShaclValidationReport G)

def GovernedWrite.purpose : GovernedWrite D → Purpose D
  | .put .. => .put
  | .supersede .. => .supersede
  | .restore .. => .restore

def GovernedWrite.receipt (write : GovernedWrite D) : Written D → Receipt D
  | .put result => .put result.assertion.revisionId result.generation result.eventId
  | .replaced result => match write with
      | .restore .. => .restore result.predecessor.revisionId result.replacement.revisionId
          result.generation result.eventIds
      | _ => .supersede result.predecessor.revisionId result.replacement.revisionId
          result.generation result.eventIds result.invalidatedRevisionIds

namespace Ledger

variable {ledger : Ledger G}

def empty : Ledger G where
  store := .empty
  operations := fun _ => none
  tombstones := fun _ => none
  erasures := []
  reports := fun _ => none

section Lookup

/-- `_operation`: the receipt of an earlier delivery of the operation. -/
def operation (ledger : Ledger G) (operationId : G.OperationId) (purpose : Purpose D)
    (digest : G.Digest) : Except StoreError (Option (OperationRow G)) :=
  match ledger.operations operationId with
  | none =>
    if operationId ∈ ledger.erasures then
      .error (.conflict "operation_id was already used for an erasure mutation")
    else match ledger.tombstones operationId with
      | none => .ok none
      | some erased =>
        if erased ≠ (purpose, digest) then
          .error (.conflict
            "operation_id was already used for a different semantic mutation")
        else .error (.conflict
          "semantic operation completed previously but was physically erased")
  | some row =>
    if row.receipt.purpose ≠ purpose ∨ row.digest ≠ digest then
      .error (.conflict "operation_id was already used for a different semantic mutation")
    else .ok (some row)

def validationReportFromReceipt (ledger : Ledger G) (row : OperationRow G) :
    Except StoreError (ShaclValidationReport G) :=
  match row.validationReportId with
  | none => .error (.conflict
      "operation_id was already used for an ungoverned semantic mutation")
  | some reportId => match ledger.reports reportId with
      | none => .error (.conflict
          "governed semantic operation receipt no longer has its validation report")
      | some report => .ok report

def replay (store : Store D) : Receipt D → Except StoreError (Written D)
  | .put revisionId generation eventId => match store.revision revisionId with
      | none => .error (.conflict "idempotent assertion receipt no longer has a revision")
      | some assertion => .ok (.put ⟨assertion, generation, eventId, true⟩)
  | .supersede predecessorRevisionId replacementRevisionId generation eventIds invalidated =>
    match store.revision predecessorRevisionId, store.revision replacementRevisionId with
    | some predecessor, some applied =>
      .ok (.replaced ⟨predecessor, applied, generation, eventIds, invalidated, true⟩)
    | _, _ => .error (.conflict "idempotent supersession receipt no longer has its revisions")
  | .restore predecessorRevisionId replacementRevisionId generation eventIds =>
    match store.revision predecessorRevisionId, store.revision replacementRevisionId with
    | some predecessor, some applied =>
      .ok (.replaced ⟨predecessor, applied, generation, eventIds, [], true⟩)
    | _, _ => .error (.conflict "idempotent restoration receipt no longer has its revisions")
  -- No lookup of a governed write finds these: their purposes differ.
  | .quarantine .. | .other _ =>
    .error (.conflict "operation_id was already used for a different semantic mutation")

/-- `_validate_accepted_validation_report`. -/
def validateAcceptedReport (assertion : Assertion D) (report : ShaclValidationReport G) :
    Except StoreError Unit := do
  Except.require (report.action.accepts = true)
    (.store "only accepted validation reports can accompany a canonical assertion write")
  Except.require (report.assertionIds = [assertion.assertionId])
    (.store "accepted validation report must identify exactly the assertion committed with it")

/-- `replay_governed_initial_write`, `replay_governed_supersession` and
`replay_governed_restoration`. -/
def replayGoverned (ledger : Ledger G) (write : GovernedWrite D) (operationId : G.OperationId) :
    Except StoreError (Option (ShaclValidationReport G × Written D)) := do
  write.validate
  match ← ledger.operation operationId write.purpose (G.digest write) with
  | none => pure none
  | some row => do
    let report ← ledger.validationReportFromReceipt row
    let written ← replay ledger.store row.receipt
    validateAcceptedReport written.assertion report
    pure (some (report, written))

end Lookup

section Reports

/-- The revisions that a report is bound to, by assertion. -/
abbrev Bindings (D : Domain) := D.AssertionId → Option D.RevisionId

/-- `_persist_validation_report_in_transaction`. -/
def persistReport (report : ShaclValidationReport G) (bindings : Option (Bindings D))
    (ledger : Ledger G) : Except StoreError (Ledger G) :=
  match ledger.reports report.reportId with
  | some existing =>
    if existing ≠ report then
      .error (.store "validation report id is immutable and already stores different data")
    else .ok ledger
  | none => do
    if let some revisions := bindings then
      Except.require (∀ assertionId ∈ report.assertionIds, (revisions assertionId).isSome)
        (.conflict "validation report lacks exact revision bindings")
      Except.require (∀ assertionId ∈ report.assertionIds,
          (ledger.store.current assertionId).map (·.revisionId) = revisions assertionId)
        (.conflict "validation target revision changed before report persistence")
    pure { ledger with
      reports := Function.update ledger.reports report.reportId (some report) }

/-- `persist_validation_report` at a generation. -/
def persistReportAt (generation : ℕ) (report : ShaclValidationReport G) (revisions : Bindings D)
    (ledger : Ledger G) : Except StoreError (Ledger G) := do
  Except.require (ledger.store.generation = generation)
    (.conflict "validation generation changed before report persistence")
  ledger.persistReport report (some revisions)

end Reports

section Mutations

/-- `_record_operation`. -/
def record (operationId : G.OperationId) (row : OperationRow G) (ledger : Ledger G) : Ledger G :=
  { ledger with operations := Function.update ledger.operations operationId (some row) }

/-- The row of a committed write. The states of the conclusions that a supersession retracts are
the draws after its predecessor's. -/
def writeRow (supply : Supply D) (write : GovernedWrite D) (reportId : G.ReportId)
    (store : Store D) (written : Written D) : OperationRow G where
  receipt := write.receipt written
  digest := G.digest write
  validationReportId := some reportId
  assertionIds := match write, written with
    | .supersede .., .replaced result => result.predecessor.assertionId ::
        result.replacement.assertionId ::
          (result.invalidatedRevisionIds.filterMap store.revision).map (·.assertionId)
    | _, _ => [written.assertion.assertionId]
  revisionIds := match write, written with
    | .put .., _ => [written.assertion.revisionId]
    | .supersede .., .replaced result => result.predecessor.revisionId ::
        result.replacement.revisionId ::
          (List.range (result.invalidatedRevisionIds.length - 1)).map fun i => supply.uuid4 (1 + i)
    | _, .replaced result => [result.predecessor.revisionId, result.replacement.revisionId]
    | _, .put result => [result.assertion.revisionId]

/-- `put_assertion_with_validation_report`, `supersede_with_validation_report` and
`restore_with_validation_report`. -/
def commitWithReport (supply : Supply D) (write : GovernedWrite D) (operationId : G.OperationId)
    (generation : ℕ) (report : ShaclValidationReport G) (ledger : Ledger G) :
    Except StoreError (Ledger G × Written D) := do
  write.validate
  validateAcceptedReport write.proposal report
  match ← ledger.operation operationId write.purpose (G.digest write) with
  | some row => do
    let written ← replay ledger.store row.receipt
    let _ ← ledger.validationReportFromReceipt row
    pure (ledger, written)
  | none => do
    let (store, written) ← write.apply supply generation ledger.store
    -- An initial write of a stored revision records no operation.
    let recorded := if written.idempotent then { ledger with store := store }
      else { ledger with store := store }.record operationId
        (writeRow supply write report.reportId ledger.store written)
    let persisted ← recorded.persistReport report (some fun assertionId =>
      if assertionId = write.proposal.assertionId then some write.proposal.revisionId else none)
    pure (persisted, written)

def quarantineRow (reportId : G.ReportId) (targets : List (D.AssertionId × D.RevisionId))
    (result : WithdrawalResult D) : OperationRow G where
  receipt := .quarantine (result.roots.map (·.revisionId)) (result.invalidated.map (·.revisionId))
    result.generation
  digest := G.quarantineDigest reportId targets
  validationReportId := some reportId
  assertionIds := (result.roots ++ result.invalidated).map (·.assertionId)
  revisionIds := (result.roots ++ result.invalidated).map (·.revisionId)

/-- `persist_validation_report_and_quarantine`. -/
def persistReportAndQuarantine (supply : Supply D) (report : ShaclValidationReport G)
    (revisions : Bindings D) (ledger : Ledger G) : Except StoreError (Ledger G) := do
  Except.require (report.action = .quarantine)
    (.store "atomic validation repair requires a quarantine report")
  Except.require (∀ assertionId ∈ report.targets, (revisions assertionId).isSome)
    (.conflict "validation snapshot is missing a report-affected assertion revision")
  let targets := report.targets.filterMap fun assertionId =>
    (revisions assertionId).map fun revisionId => (assertionId, revisionId)
  match ← ledger.operation (G.quarantineOperationId report.reportId) .quarantine
      (G.quarantineDigest report.reportId targets) with
  | some row => do
    let _ ← ledger.validationReportFromReceipt row
    match row.receipt with
    | .quarantine quarantined invalidated _ =>
      Except.require (∀ revisionId ∈ quarantined ++ invalidated,
          (ledger.store.revision revisionId).isSome)
        (.conflict "idempotent validation repair receipt lost its lifecycle revisions")
    | _ => pure ()
    pure ledger
  | none => do
    let _ ← ledger.store.expectedActiveTargets targets
    let persisted ← ledger.persistReport report (some revisions)
    let (store, result) ← persisted.store.quarantineReportTargets supply targets
    pure ({ persisted with store := store }.record (G.quarantineOperationId report.reportId)
      (quarantineRow report.reportId targets result))

/-- A mutation of another caller, under an operation of its own. Its receipt names no validation
report. -/
def mutate (supply : Supply D) (mutation : AssertionMutation D)
    (recorded : Option (G.OperationId × Receipt D × G.Digest × List D.AssertionId ×
      List D.RevisionId)) (ledger : Ledger G) : Except StoreError (Ledger G) :=
  match recorded with
  | none => do
    let store ← ledger.store.apply supply mutation
    pure { ledger with store := store }
  | some (operationId, receipt, digest, assertionIds, revisionIds) => do
    match ← ledger.operation operationId receipt.purpose digest with
    | some _ => pure ledger
    | none => do
      let store ← ledger.store.apply supply mutation
      pure ({ ledger with store := store }.record operationId
        ⟨receipt, digest, none, assertionIds, revisionIds⟩)

def OperationRow.References (row : OperationRow G) (result : ErasureResult D) : Prop :=
  (∃ assertionId ∈ row.assertionIds, assertionId ∈ result.erasedAssertionIds) ∨
    ∃ revisionId ∈ row.revisionIds, revisionId ∈ result.erasedRevisionIds

instance (row : OperationRow G) (result : ErasureResult D) :
    Decidable (OperationRow.References row result) :=
  inferInstanceAs (Decidable (_ ∨ _))

/-- The deletions of a physical erasure from the ledger:
`_tombstone_and_delete_operations_referencing` and `_delete_validation_reports_referencing`. -/
def forget (operationId : G.OperationId) (store : Store D) (result : ErasureResult D)
    (ledger : Ledger G) : Ledger G where
  store := store
  operations := fun each => (ledger.operations each).filter fun row =>
    ¬ OperationRow.References row result
  tombstones := fun each => match ledger.operations each with
    | none => ledger.tombstones each
    | some row =>
      if OperationRow.References row result then some (row.receipt.purpose, row.digest)
      else ledger.tombstones each
  erasures := operationId :: ledger.erasures
  reports := fun each => (ledger.reports each).filter fun report =>
    ¬ ∃ assertionId ∈ report.assertionIds ++ report.findings.flatten,
      assertionId ∈ result.erasedAssertionIds

/-- `erase` under an operation id that the ledger does not know. -/
def erase (supply : Supply D) (limit : ℕ) (operationId : G.OperationId)
    (assertionId : D.AssertionId) (ledger : Ledger G) : Except StoreError (Ledger G) :=
  if (ledger.operations operationId).isSome then
    .error (.conflict "operation_id was already used for a different semantic mutation")
  else if (ledger.tombstones operationId).isSome then
    .error (.conflict "operation_id was already used for a physically erased semantic mutation")
  else if operationId ∈ ledger.erasures then .ok ledger
  else do
    match ← ledger.store.erase supply assertionId limit with
    | none => pure ledger
    | some (store, result) => pure (ledger.forget operationId store result)

end Mutations

end Ledger

end Kestrel.AssertionStore
