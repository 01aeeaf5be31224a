import Kestrel.Base.Except
import Kestrel.Base.Json
import Kestrel.Base.Sha256
import Kestrel.Base.Table
import Kestrel.Stop.Types

/-!
# Durable receipts of cooperative Stop

Receipts with their outcomes, operation claims and operation bindings are rows of the host's Stop
evidence database, keyed by the digest of the operation. Every call runs inside one transaction: it
either fails and leaves the tables alone, or commits the tables returned here.
-/

namespace Kestrel.Stop

namespace Receipt

/-- `_LEGACY_CLAIM_GRACE_SECONDS`, in microseconds. -/
def legacyClaimGrace : ℕ := 300 * 1000000

inductive ReceiptError where
  | conflict (message : String)
  | corrupt (message : String)
  | value (message : String)
  | overflow (message : String)
  | integrity (message : String)
  deriving DecidableEq, Repr

/-- `_domain_error`: the failures that stay typed outside their transaction. -/
def ReceiptError.isDomain : ReceiptError → Bool
  | .conflict _ | .corrupt _ => true
  | .value _ | .overflow _ | .integrity _ => false

/-- A check that fails with an error. -/
def require (condition : Prop) [Decidable condition] (error : ReceiptError) :
    Except ReceiptError Unit :=
  if condition then .ok () else .error error

/-- A row of `stop_receipt_outcomes`; its ordinal is its place among the receipt's outcomes. -/
structure OutcomeRow where
  resolvedTarget : String
  agentId : String
  disposition : String
  detail : Option String
  deriving DecidableEq, Repr

/-- A row of `stop_receipts` with its outcomes. -/
structure ReceiptRow where
  receiptId : String
  requestFingerprint : String
  scope : String
  actorId : String
  requestedTarget : Option String
  targetAgentId : Option String
  reason : Option String
  cascade : ℤ
  occurredAt : ℕ
  turnId : Option String
  spanId : Option String
  traceId : Option String
  door : Option String
  outcomes : List OutcomeRow
  deriving DecidableEq, Repr

/-- A row of `stop_operation_claims`. Older rows have no owner and no heartbeat. -/
structure ClaimRow where
  requestFingerprint : String
  claimId : String
  claimedAt : ℕ
  ownerId : Option String
  heartbeatAt : Option ℕ
  deriving DecidableEq, Repr

/-- A row of `stop_operation_bindings`. -/
structure BindingRow where
  requestFingerprint : String
  boundAt : ℕ
  deriving DecidableEq, Repr

structure Tables where
  receipts : Table String ReceiptRow
  claims : Table String ClaimRow
  bindings : Table String BindingRow

/-- Durable ownership of one operation before cancellation side effects. -/
structure StopOperationClaim where
  operationId : String
  requestFingerprint : String
  claimId : String
  takenOver : Bool
  deriving DecidableEq, Repr

structure StopReceipt where
  receiptId : String
  operationId : String
  requestFingerprint : String
  scope : StopScope
  actorId : String
  requestedTarget : Option String
  targetAgentId : Option String
  reason : Option String
  cascade : Bool
  occurredAt : ℕ
  turnId : Option String
  spanId : Option String
  traceId : Option String
  outcomes : List StopOutcome
  deriving DecidableEq

/-- The owner of a claim is proven dead: its heartbeat is a lease old, or it has none and was
claimed longer ago than the grace of older claims. -/
def ClaimRow.Expired (lease now : ℕ) (row : ClaimRow) : Prop :=
  (row.heartbeatAt = none ∧ row.claimedAt + legacyClaimGrace ≤ now) ∨
    row.heartbeatAt.any (· + lease ≤ now)

instance (lease now : ℕ) (row : ClaimRow) : Decidable (ClaimRow.Expired lease now row) :=
  inferInstanceAs (Decidable (_ ∨ _))

def ClaimRow.Renewable (ownerId : String) (lease : ℕ) (claimId : String) (now : ℕ)
    (row : ClaimRow) : Prop :=
  row.claimId = claimId ∧ row.ownerId = some ownerId ∧ row.heartbeatAt.any (now < · + lease)

instance (ownerId : String) (lease : ℕ) (claimId : String) (now : ℕ) (row : ClaimRow) :
    Decidable (ClaimRow.Renewable ownerId lease claimId now row) :=
  inferInstanceAs (Decidable (_ ∧ _))

/-- What `claim` returns: a replay, a new claim, or that a live owner holds the operation. -/
inductive ClaimAnswer where
  | replayed (receipt : StopReceipt)
  | claimed (claim : StopOperationClaim)
  | inProgress
  deriving DecidableEq

section Digests

variable (sha256 : Sha256)

def opaqueIdDomain : List UInt8 := Bytes.utf8 "kestrel:stop-receipt-opaque-id:v1" ++ [0]

inductive IdentifierKind where
  | operation
  | target
  | publicTurnTarget
  | resolvedTarget
  deriving DecidableEq, Repr

def IdentifierKind.value : IdentifierKind → String
  | .operation => "operation"
  | .target => "target"
  | .publicTurnTarget => "public_turn_target"
  | .resolvedTarget => "resolved_target"

/-- The bytes that `_identifier_digest` hashes. -/
def identifierBytes (kind : IdentifierKind) (value : String) : List UInt8 :=
  opaqueIdDomain ++ (Bytes.bigEndian 2 (Bytes.utf8 kind.value).length ++
    (Bytes.utf8 kind.value ++
      (Bytes.bigEndian 4 (Bytes.utf8 value).length ++ Bytes.utf8 value)))

def identifierText (kind : IdentifierKind) (value : String) : String :=
  "sha256:" ++ sha256.hexdigest (identifierBytes kind value)

def identifierDigest (kind : IdentifierKind) (value : String) : Except ReceiptError String :=
  if 256 ^ 4 ≤ (Bytes.utf8 value).length then .error (.overflow "int too big to convert")
  else .ok (identifierText sha256 kind value)

def optionalIdentifierDigest (kind : IdentifierKind) :
    Option String → Except ReceiptError (Option String)
  | none => .ok none
  | some value => (identifierDigest sha256 kind value).map some

/-- The members that identify a request, in the order of their keys. -/
def semanticRequest (request : StopRequest) : List (String × Json.Value) :=
  let text (value : Option String) : Json.Value := (value.map .text).getD .null
  [("actor_id", .text request.actorId),
    ("cascade", .boolean request.cascade),
    ("correlation_id", .text request.correlationId),
    ("reason", text request.reason),
    ("request_generation", (request.requestGeneration.map .integer).getD .null),
    ("scope", .text request.scope.value),
    ("target", text request.target),
    -- An agent request addresses its agent by its target; the resolved identity is evidence.
    ("target_agent_id", text (if request.scope = .agent then none else request.targetAgentId)),
    ("target_is_turn_id", .boolean request.targetIsTurnId)]

/-- The bytes that `_fingerprint` hashes. -/
def fingerprintBytes (request : StopRequest) : List UInt8 :=
  Bytes.utf8 (Json.dumps (semanticRequest request))

def fingerprint (request : StopRequest) : String :=
  sha256.hexdigest (fingerprintBytes request)

def requestTargetDigestKind (request : StopRequest) : IdentifierKind :=
  if request.targetIsTurnId then .publicTurnTarget else .target

/-- `_stored_outcome_identity` of a `resolved_target`. -/
def storedResolvedTarget (request : StopRequest) (value : String) : Except ReceiptError String :=
  if request.target = some value then
    identifierDigest sha256 (requestTargetDigestKind request) value
  else if request.targetIsTurnId then identifierDigest sha256 .resolvedTarget value
  else .ok value

/-- `_stored_outcome_identity` of an `agent_id`. -/
def storedAgentId (request : StopRequest) (value : String) : Except ReceiptError String :=
  if request.target = some value then
    identifierDigest sha256 (requestTargetDigestKind request) value
  else .ok value

def publicOutcomeIdentity (request : StopRequest) (value : String) : Except ReceiptError String :=
  match request.target with
  | none => .ok value
  | some target => do
    let digest ← identifierDigest sha256 (requestTargetDigestKind request) target
    pure (if value = digest then target else value)

/-- The turn whose digest a stored receipt of the request has to carry. -/
def expectedTurn (request : StopRequest) : Option String :=
  -- A private request without a known turn names its own target there.
  if request.targetIsTurnId = false ∧ request.turnId = request.target then none
  else request.turnId

end Digests

section Rows

variable (sha256 : Sha256)

def requiredText (value field : String) : Except ReceiptError Unit :=
  require (¬ Text.isBlank value) (.corrupt ("Stop receipt " ++ field ++ " is missing"))

def optionalText (value : Option String) (field : String) : Except ReceiptError Unit :=
  require (concreteIfPresent value) (.corrupt ("Stop receipt " ++ field ++ " is invalid"))

/-- The shape of a SHA-256 fingerprint. -/
def isFingerprint (value : String) : Bool :=
  value.length = 64 && value.toList.all Bytes.isHexDigit

def isIdentifierDigest (value : String) : Bool :=
  "sha256:".toList.isPrefixOf value.toList && value.length = 71 &&
    (value.toList.drop 7).all Bytes.isHexDigit

def outcomeFromRow (scope : StopScope) (receiptId : String) (request : StopRequest)
    (row : OutcomeRow) : Except ReceiptError StopOutcome := do
  let resolvedTarget ← publicOutcomeIdentity sha256 request row.resolvedTarget
  let agentId ← publicOutcomeIdentity sha256 request row.agentId
  match StopDisposition.ofValue row.disposition with
  | none => .error (.corrupt "Stop outcome row violates its typed contract")
  | some disposition =>
    (StopOutcomeFields.build ⟨scope, request.target, resolvedTarget, agentId, disposition,
      request.correlationId, row.detail, some receiptId⟩).mapError fun _ =>
        .corrupt "Stop outcome row violates its typed contract"

/-- The columns that `_receipt_from_row` requires. -/
def requiredColumns (storedOperationId : String) (row : ReceiptRow) : Except ReceiptError Unit := do
  requiredText row.receiptId "receipt_id"
  requiredText storedOperationId "operation_id"
  requiredText row.requestFingerprint "request_fingerprint"
  requiredText row.scope "scope"
  requiredText row.actorId "actor_id"

def expectedDigests (request : StopRequest) :
    Except ReceiptError (String × Option String × Option String) := do
  let operationId ← identifierDigest sha256 .operation request.correlationId
  let requestedTarget ←
    optionalIdentifierDigest sha256 (requestTargetDigestKind request) request.target
  let turnId ←
    optionalIdentifierDigest sha256 (requestTargetDigestKind request) (expectedTurn request)
  pure (operationId, requestedTarget, turnId)

def readReceipt (row : ReceiptRow) (request : StopRequest) : Except ReceiptError StopReceipt :=
  match StopScope.ofValue row.scope with
  | none => .error (.corrupt "Stop receipt scope is invalid")
  | some scope => do
    require (row.cascade = 0 ∨ row.cascade = 1) (.corrupt "Stop receipt cascade flag is invalid")
    optionalText row.targetAgentId "target_agent_id"
    optionalText row.reason "reason"
    optionalText row.spanId "span_id"
    optionalText row.traceId "trace_id"
    require (row.requestedTarget ≠ some "") (.corrupt "Stop receipt requested_target is invalid")
    require (row.turnId.all isIdentifierDigest) (.corrupt "Stop receipt turn_id is invalid")
    let outcomes ← row.outcomes.mapM (outcomeFromRow sha256 scope row.receiptId request)
    require (outcomes ≠ []) (.corrupt "Stop receipt is missing its target outcome")
    pure
      { receiptId := row.receiptId
        operationId := request.correlationId
        requestFingerprint := row.requestFingerprint
        scope := scope
        actorId := row.actorId
        requestedTarget := request.target
        targetAgentId := row.targetAgentId
        reason := row.reason
        cascade := row.cascade ≠ 0
        occurredAt := row.occurredAt
        turnId := row.turnId
        spanId := row.spanId
        traceId := row.traceId
        outcomes := outcomes }

def receiptFromRow (storedOperationId : String) (row : ReceiptRow) (request : StopRequest) :
    Except ReceiptError StopReceipt := do
  requiredColumns storedOperationId row
  let (operationId, requestedTarget, turnId) ← expectedDigests sha256 request
  require (storedOperationId = operationId)
    (.corrupt "Stop receipt operation lookup identity is invalid")
  require (isFingerprint row.requestFingerprint) (.corrupt "Stop receipt fingerprint is invalid")
  require (row.requestFingerprint = fingerprint sha256 request)
    (.conflict "Stop operation identity was reused for a different request")
  require (row.requestedTarget = requestedTarget ∧ (turnId = none ∨ row.turnId = turnId))
    (.corrupt "Stop receipt opaque target identity is invalid")
  readReceipt sha256 row request

def assertRequestMatchesReceipt (request : StopRequest) (receipt : StopReceipt) :
    Except ReceiptError Unit := do
  require (receipt.requestFingerprint = fingerprint sha256 request)
    (.conflict "Stop operation identity was reused for a different request")
  require (receipt.operationId = request.correlationId ∧ receipt.scope = request.scope ∧
      receipt.actorId = request.actorId ∧ receipt.requestedTarget = request.target ∧
      (request.scope = .agent ∨ receipt.targetAgentId = request.targetAgentId) ∧
      receipt.reason = request.reason ∧ receipt.cascade = request.cascade)
    (.corrupt "Stop receipt header does not match its request fingerprint")

def replay (storedOperationId : String) (row : ReceiptRow) (request : StopRequest) :
    Except ReceiptError StopReceipt := do
  let receipt ← receiptFromRow sha256 storedOperationId row request
  assertRequestMatchesReceipt sha256 request receipt
  pure receipt

def validateOutcomes (request : StopRequest) (outcomes : List StopOutcome) :
    Except ReceiptError Unit := do
  require (outcomes ≠ []) (.value "Stop requires at least one target outcome")
  require (∀ outcome ∈ outcomes, outcome.scope = request.scope ∧
      outcome.requestedTarget = request.target ∧
      outcome.correlationId = request.correlationId ∧ outcome.receiptId = none)
    (.value "Stop outcome does not belong to this request")
  require (outcomes.map (·.resolvedTarget)).Nodup
    (.value "Stop receipt contains a duplicate target")

/-- The row that `persist` inserts for one outcome. -/
def outcomeRow (request : StopRequest) (outcome : StopOutcome) : Except ReceiptError OutcomeRow := do
  let resolvedTarget ← storedResolvedTarget sha256 request outcome.resolvedTarget
  let agentId ← storedAgentId sha256 request outcome.agentId
  pure ⟨resolvedTarget, agentId, outcome.disposition.value, outcome.detail⟩

/-- The row that `persist` inserts with its outcomes. -/
def receiptRow (request : StopRequest) (outcomes : List StopOutcome) (door : StopDoor) (now : ℕ)
    (receiptId : String) : Except ReceiptError ReceiptRow := do
  let requestedTarget ←
    optionalIdentifierDigest sha256 (requestTargetDigestKind request) request.target
  let turnId ← optionalIdentifierDigest sha256 (requestTargetDigestKind request) request.turnId
  let outcomes ← outcomes.mapM (outcomeRow sha256 request)
  pure
    { receiptId := receiptId
      requestFingerprint := fingerprint sha256 request
      scope := request.scope.value
      actorId := request.actorId
      requestedTarget := requestedTarget
      targetAgentId := request.targetAgentId
      reason := request.reason
      cascade := if request.cascade then 1 else 0
      occurredAt := now
      turnId := turnId
      spanId := request.spanId
      traceId := request.traceId
      door := some door.value
      outcomes := outcomes }

end Rows

namespace Tables

variable (sha256 : Sha256)

def load (request : StopRequest) (tables : Tables) :
    Except ReceiptError (Option StopReceipt) := do
  let operationId ← identifierDigest sha256 .operation request.correlationId
  match tables.receipts.row operationId with
  | none => pure none
  | some row => do
    let receipt ← replay sha256 operationId row request
    pure (some receipt)

def bindingMatches (operationId requestFingerprint : String) (tables : Tables) :
    Except ReceiptError Bool :=
  match tables.bindings.row operationId with
  | none => .ok false
  | some row =>
    if row.requestFingerprint = requestFingerprint then .ok true
    else .error (.conflict "Stop operation identity is bound to a different request")

def bindOperation (request : StopRequest) (now : ℕ) (tables : Tables) :
    Except ReceiptError Tables := do
  let requestFingerprint := fingerprint sha256 request
  let operationId ← identifierDigest sha256 .operation request.correlationId
  require ((tables.receipts.row operationId).all (·.requestFingerprint = requestFingerprint))
    (.conflict "Stop operation identity was reused for a different request")
  require ((tables.claims.row operationId).all (·.requestFingerprint = requestFingerprint))
    (.conflict "Stop operation identity was reused for a different request")
  let bound ← tables.bindingMatches operationId requestFingerprint
  if bound then pure tables
  else pure { tables with
    bindings := tables.bindings.insert operationId ⟨requestFingerprint, now⟩ }

/-- The `UNIQUE` constraint on claim identities, for a claim of an operation. -/
def claimIdUnique (operationId claimId : String) (tables : Tables) : Except ReceiptError Unit :=
  require (∀ row ∈ tables.claims.rows, row.2.claimId = claimId → row.1 = operationId)
    (.integrity "UNIQUE constraint failed: stop_operation_claims.claim_id")

/-- `claim`, by an owner with a lease. -/
def claim (ownerId : String) (lease : ℕ) (request : StopRequest) (claimId : String) (now : ℕ)
    (tables : Tables) : Except ReceiptError (Tables × ClaimAnswer) := do
  let requestFingerprint := fingerprint sha256 request
  let operationId ← identifierDigest sha256 .operation request.correlationId
  match tables.receipts.row operationId with
  | some row => do
    let receipt ← replay sha256 operationId row request
    pure (tables, .replayed receipt)
  | none => do
    let _ ← tables.bindingMatches operationId requestFingerprint
    let claims := tables.claims.insert operationId
      ⟨requestFingerprint, claimId, now, some ownerId, some now⟩
    match tables.claims.row operationId with
    | some row => do
      require (row.requestFingerprint = requestFingerprint)
        (.conflict "Stop operation identity was reused for a different request")
      if ClaimRow.Expired lease now row then do
        tables.claimIdUnique operationId claimId
        pure ({ tables with claims := claims },
          .claimed ⟨request.correlationId, requestFingerprint, claimId, true⟩)
      else pure (tables, .inProgress)
    | none => do
      tables.claimIdUnique operationId claimId
      pure ({ tables with claims := claims },
        .claimed ⟨request.correlationId, requestFingerprint, claimId, false⟩)

/-- `renew_claim`, by an owner with a lease. -/
def renewClaim (ownerId : String) (lease : ℕ) (claim : StopOperationClaim) (now : ℕ)
    (tables : Tables) : Except ReceiptError (Tables × Bool) := do
  let operationId ← identifierDigest sha256 .operation claim.operationId
  match tables.claims.row operationId with
  | none => pure (tables, false)
  | some row =>
    if ClaimRow.Renewable ownerId lease claim.claimId now row then
      pure ({ tables with
        claims := tables.claims.insert operationId { row with heartbeatAt := some now } }, true)
    else pure (tables, false)

def requireClaim (operationId requestFingerprint : String) (claimId : Option String)
    (tables : Tables) : Except ReceiptError Unit := do
  let matching := (tables.claims.row operationId).any fun row =>
    row.requestFingerprint = requestFingerprint && some row.claimId = claimId
  require ((tables.claims.row operationId).isNone ∨ matching)
    (.conflict "Stop operation claim is owned elsewhere")
  require (claimId.isNone ∨ matching) (.conflict "Stop operation claim is missing")

def insertReceipt (operationId : String) (row : ReceiptRow) (claimId : Option String)
    (tables : Tables) : Tables :=
  { tables with
    receipts := tables.receipts.insert operationId row
    claims := if claimId.isSome then tables.claims.keep fun key _ => key ≠ operationId
      else tables.claims }

/-- The transaction of `persist`. -/
def persist (request : StopRequest) (outcomes : List StopOutcome) (door : StopDoor)
    (claimId : Option String) (receiptId : String) (now : ℕ) (tables : Tables) :
    Except ReceiptError (Tables × StopReceipt) := do
  validateOutcomes request outcomes
  let requestFingerprint := fingerprint sha256 request
  let operationId ← identifierDigest sha256 .operation request.correlationId
  match tables.receipts.row operationId with
  | some row => do
    let receipt ← replay sha256 operationId row request
    pure (tables, receipt)
  | none => do
    let _ ← tables.bindingMatches operationId requestFingerprint
    tables.requireClaim operationId requestFingerprint claimId
    let row ← receiptRow sha256 request outcomes door now receiptId
    require (∀ other ∈ tables.receipts.rows, other.2.receiptId ≠ receiptId)
      (.integrity "UNIQUE constraint failed: stop_receipts.receipt_id")
    -- The inserted row is read back before its claim is dropped.
    let stored ← replay sha256 operationId row request
    pure (tables.insertReceipt operationId row claimId, stored)

/-- What `persist` returns after its transaction failed: the receipt of a concurrent exact replay,
read from the tables of a later transaction. -/
def persistFailed (request : StopRequest) (failed : ReceiptError) (later : Tables) :
    Except ReceiptError StopReceipt :=
  if failed.isDomain then .error failed
  else
    match later.load sha256 request with
    | .ok (some receipt) => .ok receipt
    | .ok none => .error failed
    | .error error => .error error

end Tables

end Receipt

end Kestrel.Stop
