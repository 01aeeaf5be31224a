import Kestrel.Storage.GovernedLedger

/-!
# The governed semantic validation service

A governed write reads a snapshot, plans its prospective graph, validates that graph and commits
at the snapshot's generation. Calls of the service interleave at their awaits with each other and
with the mutations and erasures of other callers.
-/

namespace Kestrel.AssertionStore

variable {D : Domain} {G : Governance D}

def StoreError.message : StoreError → String
  | .store message => message
  | .conflict message => message
  | .tenantIsolation message => message
  | .validation message => message
  | .inference message => message

/-- What a call of the service raises: a `SemanticValidationStoreError`, or what the assertion
store raised. -/
inductive ServiceError where
  | service (message : String)
  | store (error : StoreError)
  deriving DecidableEq, Repr

/-- The validator, as a function of the assertions whose graph it evaluates. -/
abbrev Validator (G : Governance D) := List (Assertion D) → Verdict G

section Writes

inductive WriteOutcome (G : Governance D) where
  | accepted (report : ShaclValidationReport G) (written : Written D)
  | rejected (report : ShaclValidationReport G)
  | raised (error : ServiceError)
  deriving DecidableEq

inductive WritePhase (G : Governance D) where
  /-- The lookup of an earlier delivery. -/
  | lookup
  | snapshot (attempt : ℕ)
  /-- The second lookup, with the snapshot at hand. -/
  | relookup (attempt generation : ℕ) (current : List (Assertion D))
  | plan (attempt generation : ℕ)
  /-- The lookup after a lifecycle plan that was refused. -/
  | refused
  | checkpoint (attempt generation : ℕ) (postState : List (Assertion D))
  | commit (attempt generation : ℕ) (postState : List (Assertion D))
      (report : ShaclValidationReport G)
  /-- The lookup after an idempotent commit. -/
  | confirm
  /-- The retention of a rejected candidate's report. -/
  | retain (report : ShaclValidationReport G)
  | returned (outcome : WriteOutcome G)
  deriving DecidableEq

/-- A call of `put_assertion`, `supersede_assertion` or `_restore_explicit_fact_assertion`. -/
structure WriteCall (G : Governance D) where
  write : GovernedWrite D
  operationId : G.OperationId
  maxCommitRetries : ℕ
  phase : WritePhase G

/-- What the three kinds of write are called in their error messages. -/
structure WriteMessages where
  conflict : String
  refused : String
  unreported : String

def GovernedWrite.messages : GovernedWrite D → WriteMessages
  | .put .. => {
      conflict :=
        "validation conflict: canonical generation changed before the bounded commit retry"
      refused := "governed initial write cannot replace an existing assertion"
      unreported := "idempotent governed write receipt is missing its validation report" }
  | .supersede .. => {
      conflict :=
        "validation conflict: canonical generation changed before the bounded supersession retry"
      refused := "governed supersession requires an active predecessor in the bound tenant"
      unreported := "idempotent governed supersession receipt is missing its validation report" }
  | .restore .. => {
      conflict :=
        "validation conflict: canonical generation changed before the bounded restoration retry"
      refused := "governed restoration requires a current terminal direct predecessor"
      unreported := "idempotent governed restoration receipt is missing its validation report" }

namespace WriteCall

def begin (write : GovernedWrite D) (operationId : Option G.OperationId)
    (maxCommitRetries : ℕ) : WriteCall G where
  write := write
  operationId := operationId.getD (G.resolvedOperationId write)
  maxCommitRetries := maxCommitRetries
  phase := if 1 ≤ maxCommitRetries ∧ maxCommitRetries ≤ 10 then .lookup
    else .returned (.raised (.service "max_commit_retries must be an integer in [1, 10]"))

variable (call : WriteCall G)

/-- The answer of an earlier delivery, or else what the call goes on with. -/
def answerOr (ledger : Ledger G) (next : WritePhase G) : WritePhase G :=
  match ledger.replayGoverned call.write call.operationId with
  | .ok none => next
  | .ok (some (report, written)) => .returned (.accepted report written)
  | .error error => .returned (.raised (.store error))

def fail (message : String) : WritePhase G := .returned (.raised (.service message))

/-- The next attempt after a conflict. -/
def retry (attempt : ℕ) : WritePhase G :=
  if attempt + 1 = call.maxCommitRetries then fail call.write.messages.conflict
  else .snapshot (attempt + 1)

/-- Validate a prospective graph, and commit the candidate or retain its report without it. -/
def judge (validator : Validator G) (attempt generation : ℕ) (postState : List (Assertion D)) :
    WritePhase G :=
  let report : ShaclValidationReport G := { validator postState with
    assertionIds := [call.write.proposal.assertionId]
    checkpointGeneration := generation }
  if report.action.accepts then .commit attempt generation postState report
  else .retain report.withoutAssertionIdentity

/-- What follows the second lookup: an initial write is validated over the snapshot, the others
are planned first. -/
def proceed (validator : Validator G) (attempt generation : ℕ) (current : List (Assertion D)) :
    WritePhase G :=
  match call.write with
  | .put assertion _ =>
    if assertion.assertionId ∈ current.map (·.assertionId) then
      fail call.write.messages.refused
    else call.judge validator attempt generation (current ++ [assertion])
  | _ => .plan attempt generation

/-- One step of the call, from an await to the next one. -/
def advance (supply : Supply D) (validator : Validator G) (ledger : Ledger G) :
    Ledger G × WritePhase G :=
  match call.phase with
  | .lookup => (ledger, call.answerOr ledger (.snapshot 0))
  | .snapshot attempt =>
    (ledger, .relookup attempt ledger.store.generation ledger.store.completeActiveAssertions)
  | .relookup attempt generation current =>
    (ledger, call.answerOr ledger (call.proceed validator attempt generation current))
  | .plan attempt generation =>
    match call.write.postState ledger.store with
    | .ok postState => (ledger, .checkpoint attempt generation postState)
    | .error (.conflict _) => (ledger, .refused)
    | .error error => (ledger, .returned (.raised (.store error)))
  | .refused => (ledger, call.answerOr ledger (fail call.write.messages.refused))
  | .checkpoint attempt generation postState =>
    if ledger.store.generation ≠ generation then (ledger, call.retry attempt)
    else (ledger, call.judge validator attempt generation postState)
  | .commit attempt generation _ report =>
    match ledger.commitWithReport supply call.write call.operationId generation report with
    | .ok (committed, written) =>
      (committed, if written.idempotent then .confirm else .returned (.accepted report written))
    | .error (.conflict _) => (ledger, call.retry attempt)
    | .error error => (ledger, .returned (.raised (.store error)))
  | .confirm => (ledger, call.answerOr ledger (fail call.write.messages.unreported))
  | .retain report =>
    match ledger.persistReport report none with
    | .ok retained => (retained, .returned (.rejected report))
    | .error error => (ledger, fail error.message)
  | .returned outcome => (ledger, .returned outcome)

end WriteCall

end Writes

section Validations

/-- What a revalidation does after its next await. -/
inductive ValidationPhase (G : Governance D) where
  | survey (attempt : ℕ)
  /-- The query of a bounded focus, after its checkpoint. -/
  | select (attempt generation : ℕ)
  | settle (attempt : ℕ) (report : ShaclValidationReport G) (revisions : Ledger.Bindings D)
  | returned (outcome : Except ServiceError (ShaclValidationReport G))

/-- A call of `validate_current`. -/
structure ValidationCall (G : Governance D) where
  assertionIds : List D.AssertionId
  maxQuarantineRetries : ℕ
  boundedFocusOnly : Bool
  phase : ValidationPhase G

namespace ValidationCall

def begin (assertionIds : List D.AssertionId) (maxQuarantineRetries : ℕ)
    (boundedFocusOnly : Bool) : ValidationCall G where
  assertionIds := assertionIds
  maxQuarantineRetries := maxQuarantineRetries
  boundedFocusOnly := boundedFocusOnly
  phase :=
    if ¬ (1 ≤ maxQuarantineRetries ∧ maxQuarantineRetries ≤ 10) then
      .returned (.error (.service "max_quarantine_retries must be an integer in [1, 10]"))
    else if ¬ assertionIds.Nodup then
      .returned (.error (.service "assertion_ids must be unique non-empty strings"))
    else .survey 0

variable (call : ValidationCall G)

def judge (validator : Validator G) (attempt generation : ℕ) (surveyed : List (Assertion D)) :
    ValidationPhase G :=
  if ∃ assertionId ∈ call.assertionIds, assertionId ∉ surveyed.map (·.assertionId) then
    .returned (.error (.service
      "validation target is absent from this tenant's active canonical graph"))
  else
    let report : ShaclValidationReport G := { validator surveyed with
      assertionIds := if call.assertionIds = [] then
          (surveyed.map (·.assertionId)).insertionSort (· ≤ ·)
        else call.assertionIds
      checkpointGeneration := generation }
    .settle attempt report fun assertionId =>
      (surveyed.find? fun assertion => assertion.assertionId = assertionId).map (·.revisionId)

/-- One step of the revalidation, from an await to the next one. -/
def advance (supply : Supply D) (validator : Validator G) (ledger : Ledger G) :
    Ledger G × ValidationPhase G :=
  match call.phase with
  | .survey attempt =>
    if call.assertionIds ≠ [] ∧ call.boundedFocusOnly then
      (ledger, .select attempt ledger.store.generation)
    else (ledger, call.judge validator attempt ledger.store.generation
      ledger.store.completeActiveAssertions)
  | .select attempt generation =>
    (ledger, call.judge validator attempt generation
      (ledger.store.completeActiveAssertions.filter fun assertion =>
        assertion.assertionId ∈ call.assertionIds))
  | .settle attempt report revisions =>
    if call.boundedFocusOnly ∧ report.state = .incomplete ∨ report.action ≠ .quarantine then
      match ledger.persistReportAt report.checkpointGeneration report revisions with
      | .ok persisted => (persisted, .returned (.ok report))
      | .error error => (ledger, .returned (.error (.service error.message)))
    else match ledger.persistReportAndQuarantine supply report revisions with
      | .ok repaired => (repaired, .returned (.ok report))
      | .error (.conflict _) =>
        if attempt + 1 = call.maxQuarantineRetries then
          (ledger, .returned (.error (.service
            "validation conflict: canonical data changed during bounded revalidation")))
        else (ledger, .survey (attempt + 1))
      | .error error => (ledger, .returned (.error (.store error)))
  | .returned outcome => (ledger, .returned outcome)

end ValidationCall

end Validations

/-- A tenant's tables and the calls of its service. -/
structure Service (G : Governance D) where
  ledger : Ledger G
  writes : ℕ → Option (WriteCall G)
  validations : ℕ → Option (ValidationCall G)

/-- What happens between two awaits: a step of a call of the service, or a transaction of
another caller. -/
inductive ServiceEvent (G : Governance D) where
  | beginWrite (id : ℕ) (write : GovernedWrite D) (operationId : Option G.OperationId)
      (maxCommitRetries : ℕ)
  | advanceWrite (id : ℕ) (supply : Supply D) (validator : Validator G)
  | beginValidation (id : ℕ) (assertionIds : List D.AssertionId) (maxQuarantineRetries : ℕ)
      (boundedFocusOnly : Bool)
  | advanceValidation (id : ℕ) (supply : Supply D) (validator : Validator G)
  | mutate (supply : Supply D) (mutation : AssertionMutation D)
      (recorded : Option (G.OperationId × Receipt D × G.Digest × List D.AssertionId ×
        List D.RevisionId))
  | erase (supply : Supply D) (limit : ℕ) (operationId : G.OperationId)
      (assertionId : D.AssertionId)

namespace Service

def empty : Service G where
  ledger := .empty
  writes := fun _ => none
  validations := fun _ => none

/-- One event of the tenant, if it can happen. A transaction that fails changes nothing. -/
def step (service : Service G) : ServiceEvent G → Option (Service G)
  | .beginWrite id write operationId maxCommitRetries =>
    match service.writes id with
    | some _ => none
    | none => some { service with
        writes := Function.update service.writes id
          (some (.begin write operationId maxCommitRetries)) }
  | .advanceWrite id supply validator => do
    let call ← service.writes id
    let (ledger, phase) := call.advance supply validator service.ledger
    some { service with
      ledger := ledger
      writes := Function.update service.writes id (some { call with phase := phase }) }
  | .beginValidation id assertionIds maxQuarantineRetries boundedFocusOnly =>
    match service.validations id with
    | some _ => none
    | none => some { service with
        validations := Function.update service.validations id
          (some (.begin assertionIds maxQuarantineRetries boundedFocusOnly)) }
  | .advanceValidation id supply validator => do
    let call ← service.validations id
    let (ledger, phase) := call.advance supply validator service.ledger
    some { service with
      ledger := ledger
      validations := Function.update service.validations id (some { call with phase := phase }) }
  | .mutate supply mutation recorded =>
    match service.ledger.mutate supply mutation recorded with
    | .ok ledger => some { service with ledger := ledger }
    | .error _ => none
  | .erase supply limit operationId assertionId =>
    match service.ledger.erase supply limit operationId assertionId with
    | .ok ledger => some { service with ledger := ledger }
    | .error _ => none

end Service

/-- The identifiers that an event draws are new to the store. -/
def ServiceEvent.Fresh (store : Store D) : ServiceEvent G → Prop
  | .advanceWrite _ supply _ => supply.FreshFrom 0 store
  | .advanceValidation _ supply _ => supply.FreshFrom 0 store
  | .mutate supply _ _ => supply.FreshFrom 0 store
  | .erase supply _ _ _ => supply.FreshFrom 0 store
  | _ => True

/-- The events of a tenant whose identifiers are drawn fresh. -/
def ServiceStep (before : Service G) (event : ServiceEvent G) (after : Service G) : Prop :=
  event.Fresh before.ledger.store ∧ before.step event = some after

end Kestrel.AssertionStore
