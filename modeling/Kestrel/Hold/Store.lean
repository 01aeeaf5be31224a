import Kestrel.Hold.Snapshot

/-!
# The Hold store

`set_hold`, `release_hold` and the reads of an initialized store. Each mutation is one transaction,
whose new history head is published when it commits.
-/

namespace Kestrel.Hold

/-- A Hold database with its published history head. -/
structure HoldStore where
  database : HoldDatabase
  anchor : Option (List UInt8)
  deriving DecidableEq

/-- The arguments of `set_hold`. -/
structure HoldCall where
  scope : HoldScope
  actorId : String
  reason : String
  operationId : String
  authority : HoldAuthority
  targetId : Option String
  holderId : Option String

/-- The arguments of `release_hold`. -/
structure ReleaseCall extends HoldCall where
  expectedHoldReceiptId : String

/-- What a call asks for, with its texts resolved. `_assert_replay` compares all of it. -/
structure Mutation where
  action : HoldAction
  scope : HoldScope
  targetId : String
  reason : String
  actorId : String
  expectedHoldReceiptId : String
  authority : HoldAuthority
  deriving DecidableEq, Repr

def Mutation.target (mutation : Mutation) : HoldTarget := ⟨mutation.scope, mutation.targetId⟩

def HoldReceipt.mutation (receipt : HoldReceipt) : Mutation :=
  ⟨receipt.action, receipt.scope, receipt.targetId, receipt.reason, receipt.actorId,
    receipt.expectedHoldReceiptId, receipt.authority⟩

/-- The texts of a call, stripped, and its operation id. -/
def HoldCall.resolve (call : HoldCall) (action : HoldAction) (expected : Except HoldError String) :
    Except HoldError (String × Mutation) := do
  let targetId ← target call.scope call.targetId call.holderId
  let actor ← requiredText call.actorId "actor_id"
  let why ← requiredText call.reason "reason"
  let operation ← requiredText call.operationId "operation_id"
  let expected ← expected
  validateDoorAuthority action call.scope targetId actor call.authority
  .ok (operation, ⟨action, call.scope, targetId, why, actor, expected, call.authority⟩)

def HoldCall.mutation (call : HoldCall) : Except HoldError (String × Mutation) :=
  call.resolve .hold (.ok "")

def ReleaseCall.mutation (call : ReleaseCall) : Except HoldError (String × Mutation) :=
  call.toHoldCall.resolve .release
    (requiredText call.expectedHoldReceiptId "expected_hold_receipt_id")

namespace HoldDatabase

/-- The schema of the current release, without latches or receipts. -/
def initialized : HoldDatabase where
  latches := []
  receipts := []
  receiptWitnesses := []
  contentWitnesses := []
  operationWitnesses := []
  migrations := [witnessBackfill, historyAnchorV2Migration, historyAnchorV3Migration]

def format (database : HoldDatabase) : HistoryAnchorFormat :=
  historyAnchorFormatFor database.migrations

def ensureLatchRow (database : HoldDatabase) (target : HoldTarget) : HoldDatabase :=
  { database with
    latches :=
      if database.latches.any fun row => atTarget target row.scope row.targetId then
        database.latches
      else database.latches ++ [⟨target.scope.value, target.targetId, 0, "", "", "", "", 0⟩]
    receiptWitnesses :=
      if database.receiptWitnesses.any fun row => atTarget target row.scope row.targetId then
        database.receiptWitnesses
      else database.receiptWitnesses ++ [⟨target.scope.value, target.targetId, 0⟩] }

def assertHostLatchShape (database : HoldDatabase) : Except HoldError Unit :=
  Except.require ((∀ row ∈ database.latches, row.scope = HoldScope.host.value →
        row.targetId = hostHoldTarget) ∧
      ∀ row ∈ database.receipts, row.scope = HoldScope.host.value →
        row.targetId = hostHoldTarget)
    (.corrupt "host hold state has a foreign target identity")

def readLatchRow (database : HoldDatabase) (target : HoldTarget) :
    Except HoldError (Option LatchRow) :=
  match database.latches.filter fun row => atTarget target row.scope row.targetId with
  | [] => .ok none
  | [row] => .ok (some row)
  | _ => .error (.corrupt "duplicate hold latch key")

def readReceiptByOperation (database : HoldDatabase) (operationId : String) :
    Except HoldError (Option ReceiptRow) :=
  match database.receipts.filter fun row => row.operationId = operationId with
  | [] => .ok none
  | [row] => .ok (some row)
  | _ => .error (.corrupt "Hold receipt history has a duplicate operation identity")

def validateOperationWitness (database : HoldDatabase) (operationId : String) :
    Except HoldError (Option ReceiptRow) := do
  let witnesses := database.operationWitnesses.filter fun row => row.operationId = operationId
  Except.require (witnesses.length ≤ 1)
    (.corrupt "Hold operation witness has a duplicate operation identity")
  let row ← database.readReceiptByOperation operationId
  match witnesses.head?, row with
  | none, none => .ok none
  | none, some _ => .error (.corrupt "Hold receipt is missing its global operation witness")
  | some _, none => .error (.corrupt "Hold operation witness refers to a missing receipt")
  | some witness, some row => do
    Except.require (witness.receiptId = row.receiptId)
      (.corrupt "Hold operation witness does not match receipt identity")
    .ok (some row)

def readReceiptById (database : HoldDatabase) (receiptId : String) : Option ReceiptRow :=
  database.receipts.find? fun row => row.receiptId = receiptId

section Evidence

variable (sha256 : Sha256) (isAware : String → Bool)

def header : HistoryAnchorFormat → String
  | .v1 => "kestrel-hold-history-v1\n"
  | .v2 => "kestrel-hold-history-v2\n"
  | .v3 => "kestrel-hold-history-v3\n"

def historyAnchorPayloadFromRows (rows : List ReceiptRow) (format : HistoryAnchorFormat) :
    Except HoldError (List UInt8) := do
  Except.require (∀ row ∈ rows, row.authority.isSome = format.hasAuthority)
    (.corrupt "Hold receipt history does not carry the columns its anchor format covers")
  let receipts ← rows.mapM (receiptFromRow isAware)
  let digested := (rows.zip receipts).flatMap fun (row, receipt) =>
    ([receipt.receiptId, receiptContentDigest sha256 row receipt] ++
      if format.hasAuthority then [receipt.authority.value] else []).flatMap framed
  .ok (Bytes.utf8 (header format ++ toString rows.length ++ "\n" ++
    sha256.hexdigest (Bytes.utf8 (header format) ++ digested) ++ "\n"))

def currentHistoryAnchorPayload (database : HoldDatabase) : Except HoldError (List UInt8) :=
  historyAnchorPayloadFromRows sha256 isAware
    (database.receipts.mergeSort fun first second => first.receiptId ≤ second.receiptId)
    database.format

def assertGlobalHistoryIntact (database : HoldDatabase) (anchor : Option (List UInt8)) :
    Except HoldError Unit := do
  Except.require (database.operationWitnesses.map OperationRow.operationId).Nodup
    (.corrupt "Hold operation witness has a duplicate operation identity")
  Except.require (∀ row ∈ database.receipts, ∃ witness ∈ database.operationWitnesses,
      witness.operationId = row.operationId)
    (.corrupt "Hold receipt history is missing an operation witness")
  Except.require (∀ witness ∈ database.operationWitnesses, ∃ row ∈ database.receipts,
      row.operationId = witness.operationId ∧ row.receiptId = witness.receiptId)
    (.corrupt "Hold operation witness refers to a missing receipt")
  Except.require anchor.isSome (.corrupt "Hold history anchor is missing")
  let current ← database.currentHistoryAnchorPayload sha256 isAware
  Except.require (anchor = some current)
    (.corrupt "Hold history anchor does not match receipt history")

/-- `_validate_latch_projection` of one key. -/
def validateLatchProjection (database : HoldDatabase) (latch : Option HoldState)
    (target : HoldTarget) : Except HoldError Unit := do
  let foreign := latch.bind fun latch =>
    if database.receipts.any fun row => atTarget target row.scope row.targetId ∧
        row.receiptId = latch.holdReceiptId then none
    else database.readReceiptById latch.holdReceiptId
  foreign.elim (.ok ()) fun row => (receiptFromRow isAware row).map fun _ => ()
  let projected ← database.validateTarget sha256 isAware target fun id =>
    foreign.any (·.receiptId = id)
  Except.require (projected = latch)
    (.corrupt "Hold projection changed while its authority graph was validated")

def latchAuthority (database : HoldDatabase) (latch : HoldState) :
    Except HoldError HoldAuthority :=
  match database.readReceiptById latch.holdReceiptId with
  | none => .error (.corrupt "active hold latch references a missing authority receipt")
  | some row => (receiptFromRow isAware row).map HoldReceipt.authority

def rowOf (receipt : HoldReceipt) : ReceiptRow where
  receiptId := receipt.receiptId
  operationId := receipt.operationId
  action := receipt.action.value
  disposition := receipt.disposition.value
  scope := receipt.scope.value
  targetId := receipt.targetId
  reason := receipt.reason
  actorId := receipt.actorId
  occurredAt := receipt.occurredAt
  expectedHoldReceiptId := receipt.expectedHoldReceiptId
  priorHoldReceiptId := receipt.priorHoldReceiptId
  resultingHoldReceiptId := receipt.resultingHoldReceiptId
  authority := some receipt.authority.value

/-- `_insert_receipt`, with the witnesses of the new receipt. -/
def insertReceipt (database : HoldDatabase) (receipt : HoldReceipt) :
    Except HoldError HoldDatabase := do
  Except.require (∀ row ∈ database.receipts, row.receiptId ≠ receipt.receiptId ∧
      row.operationId ≠ receipt.operationId) (.database "UNIQUE constraint failed: hold_receipts")
  let stored ← receiptFromRow isAware (rowOf receipt)
  Except.require (∀ row ∈ database.operationWitnesses, row.operationId ≠ stored.operationId ∧
      row.receiptId ≠ stored.receiptId)
    (.database "UNIQUE constraint failed: hold_operation_witnesses")
  Except.require (∀ row ∈ database.contentWitnesses, row.receiptId ≠ stored.receiptId)
    (.database "UNIQUE constraint failed: hold_receipt_content_witnesses")
  .ok { database with
    receipts := database.receipts ++ [rowOf receipt]
    operationWitnesses := database.operationWitnesses ++ [⟨stored.operationId, stored.receiptId⟩]
    contentWitnesses := database.contentWitnesses ++
      [⟨stored.receiptId, stored.scope.value, stored.targetId,
        receiptContentDigest sha256 (rowOf receipt) stored⟩]
    receiptWitnesses := database.receiptWitnesses.map fun row =>
      if atTarget receipt.target row.scope row.targetId then
        { row with receiptCount := row.receiptCount + 1 }
      else row }

/-- The update of a latch row that names an applied Hold. -/
def latch (database : HoldDatabase) (receipt : HoldReceipt) : HoldDatabase :=
  { database with
    latches := database.latches.map fun row =>
      if atTarget receipt.target row.scope row.targetId then
        { row with
          active := 1
          holdReceiptId := receipt.receiptId
          reason := receipt.reason
          actorId := receipt.actorId
          setAt := receipt.occurredAt
          revision := row.revision + 1 }
      else row }

/-- The update of a latch row that an applied release clears. -/
def unlatch (database : HoldDatabase) (target : HoldTarget) (expected : String) : HoldDatabase :=
  { database with
    latches := database.latches.map fun row =>
      if atTarget target row.scope row.targetId ∧ row.active = 1 ∧
          row.holdReceiptId = expected then
        { row with
          active := 0
          holdReceiptId := ""
          reason := ""
          actorId := ""
          setAt := ""
          revision := row.revision + 1 }
      else row }

end Evidence

end HoldDatabase

namespace HoldStore

section Calls

variable (sha256 : Sha256) (isAware : String → Bool)

/-- A store without latches or receipts. -/
def fresh : HoldStore where
  database := .initialized
  anchor := (HoldDatabase.initialized.currentHistoryAnchorPayload sha256 isAware).toOption

/-- The database with the key's rows, and its proven latch. -/
def openLatch (store : HoldStore) (target : HoldTarget) :
    Except HoldError (Option HoldState × HoldDatabase) := do
  store.database.assertHostLatchShape
  let database := store.database.ensureLatchRow target
  let row ← database.readLatchRow target
  let prior ← row.elim (.ok none) (latchFromRow isAware)
  database.validateLatchProjection sha256 isAware prior target
  database.assertGlobalHistoryIntact sha256 isAware store.anchor
  .ok (prior, database)

/-- `_assert_replay`, where the operation has a receipt. -/
def replay (database : HoldDatabase) (operationId : String) (mutation : Mutation) :
    Except HoldError (Option HoldReceipt) := do
  match ← database.validateOperationWitness operationId with
  | none => .ok none
  | some row => do
    let receipt ← receiptFromRow isAware row
    Except.require (mutation = receipt.mutation)
      (.idempotencyConflict "hold operation id was already used for a different mutation")
    .ok (some receipt)

def newReceipt (operationId : String) (mutation : Mutation) (disposition : HoldDisposition)
    (prior resulting receiptId occurredAt : String) : HoldReceipt where
  receiptId := receiptId
  operationId := operationId
  action := mutation.action
  disposition := disposition
  scope := mutation.scope
  targetId := mutation.targetId
  reason := mutation.reason
  actorId := mutation.actorId
  occurredAt := occurredAt
  expectedHoldReceiptId := mutation.expectedHoldReceiptId
  priorHoldReceiptId := prior
  resultingHoldReceiptId := resulting
  authority := mutation.authority

/-- The latch that a key's row tells. -/
def currentLatch (database : HoldDatabase) (target : HoldTarget) :
    Except HoldError (Option HoldState) := do
  let row ← database.readLatchRow target
  row.elim (.ok none) (latchFromRow isAware)

/-- The commit of a mutation with its new history head. -/
def publish (database : HoldDatabase) (mutation : HoldMutation) :
    Except HoldError (HoldMutation × HoldStore) := do
  let payload ← database.currentHistoryAnchorPayload sha256 isAware
  .ok (mutation, ⟨database, some payload⟩)

/-- `_set_hold`, with the new receipt's identity and the instant of its row. -/
def setHold (store : HoldStore) (call : HoldCall) (receiptId occurredAt : String) :
    Except HoldError (HoldMutation × HoldStore) := do
  let (operation, mutation) ← call.mutation
  let (prior, database) ← store.openLatch sha256 isAware mutation.target
  match ← replay isAware database operation mutation with
  | some receipt => .ok (⟨receipt, prior⟩, { store with database := database })
  | none => do
    let authority ← prior.elim (.ok none) fun latch =>
      (database.latchAuthority isAware latch).map some
    match prior.filter fun latch => latch.actorId = mutation.actorId ∧
        latch.reason = mutation.reason ∧ authority = some mutation.authority with
    | some latch => do
      let receipt := newReceipt operation mutation .alreadyInState latch.holdReceiptId
        latch.holdReceiptId receiptId occurredAt
      let database ← database.insertReceipt sha256 isAware receipt
      publish sha256 isAware database ⟨receipt, some latch⟩
    | none => do
      let receipt := newReceipt operation mutation .applied
        (prior.elim "" HoldState.holdReceiptId) receiptId receiptId occurredAt
      let database ← database.insertReceipt sha256 isAware receipt
      let database := database.latch receipt
      let current ← currentLatch isAware database mutation.target
      publish sha256 isAware database ⟨receipt, current⟩

/-- What a release does to the latch it finds. -/
def releaseDisposition (prior : Option HoldState) (expected : String) :
    HoldDisposition × String × String :=
  match prior with
  | none => (.alreadyInState, "", "")
  | some latch =>
    if latch.holdReceiptId ≠ expected then
      (.refusedStale, latch.holdReceiptId, latch.holdReceiptId)
    else (.applied, latch.holdReceiptId, "")

def releaseHold (store : HoldStore) (call : ReleaseCall) (receiptId occurredAt : String) :
    Except HoldError (HoldMutation × HoldStore) := do
  let (operation, mutation) ← call.mutation
  let (prior, database) ← store.openLatch sha256 isAware mutation.target
  match ← replay isAware database operation mutation with
  | some receipt => .ok (⟨receipt, prior⟩, { store with database := database })
  | none => do
    let (disposition, priorId, resultingId) :=
      releaseDisposition prior mutation.expectedHoldReceiptId
    let receipt := newReceipt operation mutation disposition priorId resultingId receiptId
      occurredAt
    let database ← database.insertReceipt sha256 isAware receipt
    let database := if disposition = .applied then
        database.unlatch mutation.target mutation.expectedHoldReceiptId
      else database
    let current ← currentLatch isAware database mutation.target
    publish sha256 isAware database ⟨receipt, current⟩

/-- One row of `_read_subject_mandates_locked`. -/
def readMandate (database : HoldDatabase) (subjectId : String) (row : LatchRow) :
    Except HoldError (Option HoldState) := do
  let latch ← latchFromRow isAware row
  let subject ← scopeSubject .mandate row.targetId
  Except.require (subject = subjectId) (.corrupt "mandate hold query returned a foreign agent")
  database.validateLatchProjection sha256 isAware latch ⟨.mandate, row.targetId⟩
  .ok latch

/-- `_read_subject_mandates_locked`. -/
def readSubjectMandates (database : HoldDatabase) (subjectId : String) :
    Except HoldError (List HoldState) := do
  let rows := (database.latches.filter fun row => row.scope = HoldScope.mandate.value ∧
      (mandateKeyPrefix subjectId).toList.isPrefixOf row.targetId.toList).mergeSort
    fun first second => first.targetId ≤ second.targetId
  Except.require (rows.map LatchRow.targetId).Nodup (.corrupt "duplicate hold latch key")
  let latches ← rows.mapM (readMandate sha256 isAware database subjectId)
  .ok latches.reduceOption

def getEffective (store : HoldStore) (agentId : String) :
    Except HoldError EffectiveHoldState := do
  let agent ← requiredText agentId "agent_id"
  store.database.assertHostLatchShape
  let mandates ← readSubjectMandates sha256 isAware store.database agent
  let host ← currentLatch isAware store.database ⟨.host, hostHoldTarget⟩
  let agentState ← currentLatch isAware store.database ⟨.agent, agent⟩
  store.database.validateLatchProjection sha256 isAware host ⟨.host, hostHoldTarget⟩
  store.database.validateLatchProjection sha256 isAware agentState ⟨.agent, agent⟩
  store.database.assertGlobalHistoryIntact sha256 isAware store.anchor
  .ok ⟨host, agentState, mandates⟩

end Calls

end HoldStore

end Kestrel.Hold
