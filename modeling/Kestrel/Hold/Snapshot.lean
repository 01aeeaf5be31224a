import Kestrel.Base.Sha256
import Kestrel.Hold.Latch

/-!
# The Hold database and its validator

Rows as they are stored, and the proof that the latches, the append-only receipts and their three
witness tables tell one history.
-/

namespace Kestrel.Hold

structure LatchRow where
  scope : String
  targetId : String
  active : ℤ
  holdReceiptId : String
  reason : String
  actorId : String
  setAt : String
  revision : ℤ
  deriving DecidableEq, Repr

/-- A receipt row. Rows of the first format have no authority column. -/
structure ReceiptRow where
  receiptId : String
  operationId : String
  action : String
  disposition : String
  scope : String
  targetId : String
  reason : String
  actorId : String
  occurredAt : String
  expectedHoldReceiptId : String
  priorHoldReceiptId : String
  resultingHoldReceiptId : String
  authority : Option String
  deriving DecidableEq, Repr

structure CountRow where
  scope : String
  targetId : String
  receiptCount : ℤ
  deriving DecidableEq, Repr

structure ContentRow where
  receiptId : String
  scope : String
  targetId : String
  receiptDigest : String
  deriving DecidableEq, Repr

structure OperationRow where
  operationId : String
  receiptId : String
  deriving DecidableEq, Repr

structure HoldDatabase where
  latches : List LatchRow
  receipts : List ReceiptRow
  receiptWitnesses : List CountRow
  contentWitnesses : List ContentRow
  operationWitnesses : List OperationRow
  migrations : List String
  deriving DecidableEq

def witnessBackfill : String := "hold_state_witness_ledgers_v1"

/-- The receipt projection that a history anchor digests. -/
inductive HistoryAnchorFormat where
  | v1
  | v2
  | v3
  deriving DecidableEq, Repr

def historyAnchorV2Migration : String := "hold_history_anchor_v2"

def historyAnchorV3Migration : String := "hold_history_anchor_v3"

def historyAnchorFormatFor (migrations : List String) : HistoryAnchorFormat :=
  if historyAnchorV3Migration ∈ migrations then .v3
  else if historyAnchorV2Migration ∈ migrations then .v2
  else .v1

def HistoryAnchorFormat.hasAuthority : HistoryAnchorFormat → Bool
  | .v1 => false
  | _ => true

/-- A Python value that is true: a text with characters. -/
def present (text : String) : Bool := text ≠ ""

def exactNonnegativeRevision (value : ℤ) : Except HoldError ℤ := do
  Except.require (0 ≤ value) (.corrupt "hold latch revision is invalid")
  .ok value

def snapshotTarget (scope targetId label : String) : Except HoldError HoldTarget := do
  match HoldScope.ofValue scope with
  | none => .error (.corrupt (label ++ " has an invalid scope"))
  | some scope => do
    Except.require (Text.isBlank targetId = false) (.corrupt (label ++ " is missing its identity"))
    Except.require (targetId = Text.strip targetId)
      (.corrupt (label ++ " has a noncanonical identity"))
    assertScopeKey scope targetId label
    .ok ⟨scope, targetId⟩

section Rows

-- The texts that `_aware_timestamp` accepts.
variable (isAware : String → Bool)

def latchFromRow (row : LatchRow) : Except HoldError (Option HoldState) := do
  match HoldScope.ofValue row.scope with
  | none => .error (.corrupt "hold latch row has invalid typed fields")
  | some scope => do
    Except.require (row.active = 0 ∨ row.active = 1)
      (.corrupt "hold latch active flag is invalid")
    let revision ← exactNonnegativeRevision row.revision
    Except.require (Text.isBlank row.targetId = false)
      (.corrupt "hold latch is missing its target identity")
    Except.require (scope = .host → row.targetId = hostHoldTarget)
      (.corrupt "host hold latch has a foreign target")
    assertScopeKey scope row.targetId "hold latch"
    let evidence := [row.holdReceiptId, row.reason, row.actorId, row.setAt]
    if row.active = 0 then do
      Except.require (evidence.any present = false)
        (.corrupt "inactive latch retains active hold evidence")
      .ok none
    else do
      Except.require (evidence.any Text.isBlank = false)
        (.corrupt "active hold latch is missing required evidence")
      Except.require (isAware row.setAt = true) (.corrupt "hold latch timestamp is invalid")
      .ok (some ⟨scope, row.targetId, row.reason, row.actorId, row.setAt, row.holdReceiptId,
        revision⟩)

/-- The relation between a receipt's action, disposition and the receipts it names. -/
def HoldReceipt.linked (receipt : HoldReceipt) : Bool :=
  match receipt.action, receipt.disposition with
  | .hold, .applied =>
    receipt.expectedHoldReceiptId = "" ∧ receipt.resultingHoldReceiptId = receipt.receiptId
  | .hold, .alreadyInState =>
    receipt.expectedHoldReceiptId = "" ∧ present receipt.priorHoldReceiptId ∧
      receipt.resultingHoldReceiptId = receipt.priorHoldReceiptId
  | .hold, .refusedStale => false
  | .release, .applied =>
    present receipt.expectedHoldReceiptId ∧
      receipt.priorHoldReceiptId = receipt.expectedHoldReceiptId ∧
      receipt.resultingHoldReceiptId = ""
  | .release, .alreadyInState =>
    present receipt.expectedHoldReceiptId ∧ receipt.priorHoldReceiptId = "" ∧
      receipt.resultingHoldReceiptId = ""
  | .release, .refusedStale =>
    present receipt.expectedHoldReceiptId ∧ present receipt.priorHoldReceiptId ∧
      receipt.priorHoldReceiptId ≠ receipt.expectedHoldReceiptId ∧
      receipt.resultingHoldReceiptId = receipt.priorHoldReceiptId

def typedReceipt (row : ReceiptRow) : Option HoldReceipt := do
  let action ← HoldAction.ofValue row.action
  let disposition ← HoldDisposition.ofValue row.disposition
  let scope ← HoldScope.ofValue row.scope
  let authority ← HoldAuthority.ofValue (row.authority.getD HoldAuthority.sovereign.value)
  some
    { receiptId := row.receiptId
      operationId := row.operationId
      action := action
      disposition := disposition
      scope := scope
      targetId := row.targetId
      reason := row.reason
      actorId := row.actorId
      occurredAt := row.occurredAt
      expectedHoldReceiptId := row.expectedHoldReceiptId
      priorHoldReceiptId := row.priorHoldReceiptId
      resultingHoldReceiptId := row.resultingHoldReceiptId
      authority := authority }

/-- What `_receipt_from_row` requires of the typed fields. -/
def checkReceipt (receipt : HoldReceipt) : Except HoldError Unit := do
  Except.require ([receipt.receiptId, receipt.operationId, receipt.targetId, receipt.reason,
      receipt.actorId, receipt.occurredAt].any Text.isBlank = false)
    (.corrupt "hold receipt invariant is invalid")
  Except.require (isAware receipt.occurredAt = true) (.corrupt "hold receipt timestamp is invalid")
  Except.require (receipt.scope = .host → receipt.targetId = hostHoldTarget)
    (.corrupt "hold receipt invariant is invalid")
  assertScopeKey receipt.scope receipt.targetId "hold receipt"
  Except.require ((validateDoorAuthority receipt.action receipt.scope receipt.targetId
      receipt.actorId receipt.authority).isOk = true)
    (.corrupt "hold receipt records an authority that cannot act on its latch")
  Except.require ([receipt.priorHoldReceiptId, receipt.resultingHoldReceiptId,
      receipt.expectedHoldReceiptId].any (fun id => present id && Text.isBlank id) = false)
    (.corrupt "hold receipt invariant is invalid")
  Except.require (receipt.linked = true) (.corrupt "hold receipt invariant is invalid")

def receiptFromRow (row : ReceiptRow) : Except HoldError HoldReceipt :=
  match typedReceipt row with
  | none => .error (.corrupt "hold receipt has invalid typed fields")
  | some receipt => do
    checkReceipt isAware receipt
    .ok receipt

variable (sha256 : Sha256)

/-- A value with its length in front. -/
def framed (value : String) : List UInt8 :=
  Bytes.bigEndian 8 (Bytes.utf8 value).length ++ Bytes.utf8 value

/-- `_receipt_content_digest` of a row and its typed receipt. -/
def receiptContentDigest (row : ReceiptRow) (receipt : HoldReceipt) : String :=
  sha256.hexdigest (([row.receiptId, row.operationId, row.action, row.disposition, row.scope,
      row.targetId, row.reason, row.actorId, row.occurredAt, row.expectedHoldReceiptId,
      row.priorHoldReceiptId, row.resultingHoldReceiptId] ++
    if receipt.authority = .sovereign then [] else [receipt.authority.value]).flatMap framed)

end Rows

/-! ## The receipt graph of one latch -/

/-- One walk of `_terminal_authority_ids` along the successors of an authority, with what it went
through and the open authority it ended at. A walk through more authorities than there are would
have met one twice. -/
def walkSuccessors (consumers : String → Option HoldReceipt) (completed : List String) :
    ℕ → String → List String → Except HoldError (List String × Option String)
  | 0, _, _ => .error (.corrupt "Hold receipt graph contains a cycle")
  | fuel + 1, cursor, path =>
    if cursor ∈ completed then .ok (path, none)
    else if cursor ∈ path then .error (.corrupt "Hold receipt graph contains a cycle")
    else match consumers cursor with
      | none => .ok (cursor :: path, some cursor)
      | some successor =>
        if successor.action = .release then .ok (cursor :: path, none)
        else walkSuccessors consumers completed fuel successor.receiptId (cursor :: path)

def terminalAuthorityIds (authorities : List HoldReceipt)
    (consumers : String → Option HoldReceipt) : Except HoldError (List String) :=
  (authorities.foldlM (fun (found : List String × List String) (authority : HoldReceipt) => do
      let (terminal, completed) := found
      let (path, last) ← walkSuccessors consumers completed (authorities.length + 1)
        authority.receiptId []
      .ok (terminal ++ last.toList, path ++ completed)) ([], [])).map Prod.fst

def consumerOf (applied : List HoldReceipt) (authorityId : String) : Option HoldReceipt :=
  applied.find? fun receipt =>
    present receipt.priorHoldReceiptId ∧ receipt.priorHoldReceiptId = authorityId

/-- The authorities that the applied receipts of a latch created, and the open ones. -/
def terminalAuthorities (receipts : List HoldReceipt) :
    Except HoldError (List HoldReceipt × List String) := do
  let applied := receipts.filter fun receipt => receipt.disposition = .applied
  let authorities := applied.filter fun receipt => receipt.action = .hold
  let known := authorities.map HoldReceipt.receiptId
  Except.require (receipts.all (fun receipt =>
      [receipt.priorHoldReceiptId, receipt.resultingHoldReceiptId].all fun id =>
        !present id || id ∈ known) = true)
    (.corrupt "Hold history references missing authority receipt")
  Except.require ((applied.map HoldReceipt.priorHoldReceiptId).filter present).Nodup
    (.corrupt "applied Hold authority has multiple successors")
  let terminal ← terminalAuthorityIds authorities (consumerOf applied)
  .ok (authorities, terminal)

section Validation

variable (sha256 : Sha256) (isAware : String → Bool)

def contentWitnessesValid (rows : List ReceiptRow) (receipts : List HoldReceipt)
    (witnesses : List ContentRow) : Bool :=
  (witnesses.all fun witness =>
      present witness.receiptId && witness.receiptDigest.length = 64) &&
    decide (witnesses.map ContentRow.receiptId).Nodup &&
    (witnesses.all fun witness => receipts.any fun receipt =>
      receipt.receiptId = witness.receiptId) &&
    (rows.zip receipts).all fun (row, receipt) => witnesses.any fun witness =>
      witness.receiptId = receipt.receiptId &&
        witness.receiptDigest = receiptContentDigest sha256 row receipt

def witnessedReceipts (target : HoldTarget) (latchRow : Option LatchRow)
    (receipts : List HoldReceipt) (countRows : List CountRow) : Except HoldError ℤ :=
  match countRows with
  | [] =>
    if receipts = [] ∧ latchRow = none then .ok 0
    else .error (.corrupt "Hold receipt-count witness is missing")
  | [witness] => do
    let owner ← snapshotTarget witness.scope witness.targetId "Hold receipt-count witness"
    Except.require (owner = target)
      (.corrupt "Hold receipt-count witness has a foreign target")
    exactNonnegativeRevision witness.receiptCount
  | _ => .error (.corrupt "Hold receipt-count witness is duplicated")

def checkLatch (latch : HoldState) (authorities : List HoldReceipt) (terminal : List String)
    (known : String → Bool) : Except HoldError Unit :=
  match authorities.find? fun receipt => receipt.receiptId = latch.holdReceiptId with
  | none =>
    if known latch.holdReceiptId then
      .error (.corrupt "active hold latch does not match its authority receipt")
    else .error (.corrupt "active hold latch references a missing authority receipt")
  | some receipt => do
    Except.require (receipt.scope = latch.scope ∧ receipt.targetId = latch.targetId ∧
        receipt.reason = latch.reason ∧ receipt.actorId = latch.actorId ∧
        receipt.occurredAt = latch.setAt)
      (.corrupt "active hold latch does not match its authority receipt")
    Except.require (terminal = [latch.holdReceiptId])
      (.corrupt "active hold latch is not the receipt graph's terminal authority")

def validateSnapshotTarget (target : HoldTarget) (latchRow : Option LatchRow)
    (receiptRows : List ReceiptRow) (countRows : List CountRow) (contentRows : List ContentRow)
    (known : String → Bool) : Except HoldError (Option HoldState) := do
  latchRow.elim (.ok ()) fun row => do
    let owner ← snapshotTarget row.scope row.targetId "Hold latch projection"
    Except.require (owner = target) (.corrupt "Hold latch projection has a foreign target")
  let latch ← latchRow.elim (.ok none) (latchFromRow isAware)
  let projectionRevision ← latchRow.elim (.ok 0) fun row => exactNonnegativeRevision row.revision
  let receipts ← receiptRows.mapM (receiptFromRow isAware)
  Except.require (∀ receipt ∈ receipts, receipt.target = target)
    (.corrupt "Hold receipt graph has a foreign target")
  Except.require (receipts.map HoldReceipt.receiptId).Nodup
    (.corrupt "Hold receipt graph has duplicate identities")
  contentRows.forM fun witness => do
    let owner ← snapshotTarget witness.scope witness.targetId "Hold receipt content witness"
    Except.require (owner = target)
      (.corrupt "Hold receipt content witness has a foreign target")
  let witnessed ← witnessedReceipts target latchRow receipts countRows
  let (authorities, terminal) ← terminalAuthorities receipts
  latch.elim
    (Except.require (witnessed = receipts.length)
      (.corrupt "hold receipt-count revision does not match receipt history"))
    fun latch => checkLatch latch authorities terminal known
  latch.elim
    (Except.require (terminal = [])
      (.corrupt "unheld projection retains active Hold authority"))
    fun _ => Except.require (witnessed = receipts.length)
      (.corrupt "hold receipt-count revision does not match receipt history")
  Except.require (projectionRevision =
      (receipts.filter fun receipt => receipt.disposition = .applied).length)
    (.corrupt "hold latch revision does not match applied receipt history")
  Except.require (contentWitnessesValid sha256 receiptRows receipts contentRows = true)
    (.corrupt "Hold receipt content witness does not match receipt history")
  .ok latch

/-- The receipts of a snapshot, each under a key of its own and a new identity. -/
def snapshotReceipts (rows : List ReceiptRow) : Except HoldError (List HoldReceipt) :=
  rows.foldlM (fun (receipts : List HoldReceipt) row => do
    let receipt ← receiptFromRow isAware row
    let _ ← snapshotTarget receipt.scope.value receipt.targetId "Hold boot-state target"
    Except.require (receipt.receiptId ∉ receipts.map HoldReceipt.receiptId)
      (.corrupt "Hold receipt graph has duplicate identities")
    Except.require (receipt.operationId ∉ receipts.map HoldReceipt.operationId)
      (.corrupt "Hold receipt history contains a duplicate operation id")
    .ok (receipts ++ [receipt])) []

def snapshotLatches (rows : List LatchRow) : Except HoldError (List HoldTarget) :=
  rows.foldlM (fun (targets : List HoldTarget) row => do
    let target ← snapshotTarget row.scope row.targetId "Hold boot-state target"
    Except.require (target ∉ targets) (.corrupt "duplicate hold latch key")
    let _ ← latchFromRow isAware row
    .ok (targets ++ [target])) []

/-- A text that is stored as it would be required. -/
def isCanonical (text : String) : Bool := !Text.isBlank text && text = Text.strip text

/-- The operation witnesses, each well formed and once. -/
def snapshotOperations (rows : List OperationRow) : Except HoldError (List OperationRow) :=
  rows.foldlM (fun (witnesses : List OperationRow) row => do
    Except.require (isCanonical row.operationId && isCanonical row.receiptId)
      (.corrupt "Hold operation witness has invalid durable evidence")
    Except.require (row.operationId ∉ witnesses.map OperationRow.operationId)
      (.corrupt "Hold operation witness has a duplicate operation identity")
    .ok (witnesses ++ [row])) []

def checkOperationWitnesses (receipts : List HoldReceipt) (rows : List OperationRow) :
    Except HoldError Unit := do
  let witnesses ← snapshotOperations rows
  receipts.forM fun receipt => do
    Except.require (receipt.operationId ∈ witnesses.map OperationRow.operationId)
      (.corrupt "completed Hold witness migration is missing an operation witness")
    Except.require (⟨receipt.operationId, receipt.receiptId⟩ ∈ witnesses)
      (.corrupt "Hold operation witness does not match receipt identity")
  witnesses.forM fun witness =>
    Except.require (∃ receipt ∈ receipts,
        receipt.operationId = witness.operationId ∧ receipt.receiptId = witness.receiptId)
      (.corrupt "Hold operation witness refers to a missing receipt")

/-- The order of `sorted` on keys. -/
def HoldTarget.le (first second : HoldTarget) : Bool :=
  first.scope.value < second.scope.value ∨
    first.scope.value = second.scope.value ∧ first.targetId ≤ second.targetId

/-- A row that is stored under a key. -/
def atTarget (target : HoldTarget) (scope targetId : String) : Bool :=
  scope = target.scope.value ∧ targetId = target.targetId

/-- What `_validate_snapshot_target` tells of one key of a database. -/
def HoldDatabase.validateTarget (database : HoldDatabase) (target : HoldTarget)
    (known : String → Bool) : Except HoldError (Option HoldState) :=
  validateSnapshotTarget sha256 isAware target
    (database.latches.find? fun row => atTarget target row.scope row.targetId)
    (database.receipts.filter fun row => atTarget target row.scope row.targetId)
    (database.receiptWitnesses.filter fun row => atTarget target row.scope row.targetId)
    (database.contentWitnesses.filter fun row => atTarget target row.scope row.targetId) known

/-- `validate_hold_database_snapshot`. -/
def HoldDatabase.validate (database : HoldDatabase) : Except HoldError (List HoldState) := do
  Except.require (witnessBackfill ∈ database.migrations)
    (.corrupt "initialized Hold schema is missing its required witness migration marker")
  Except.require (∀ row ∈ database.receipts, row.authority.isSome =
      (historyAnchorFormatFor database.migrations).hasAuthority)
    (.corrupt ("Hold receipt snapshot does not carry the columns its anchor " ++ "format covers"))
  let latched ← snapshotLatches isAware database.latches
  let receipts ← snapshotReceipts isAware database.receipts
  let counted ← database.receiptWitnesses.mapM fun row =>
    snapshotTarget row.scope row.targetId "Hold boot-state target"
  let contents ← database.contentWitnesses.mapM fun row =>
    snapshotTarget row.scope row.targetId "Hold boot-state target"
  checkOperationWitnesses receipts database.operationWitnesses
  let targets := (⟨.host, hostHoldTarget⟩ :: latched ++ receipts.map HoldReceipt.target ++
    counted ++ contents).dedup.mergeSort HoldTarget.le
  let states ← targets.mapM fun target => database.validateTarget sha256 isAware target
    fun id => id ∈ receipts.map HoldReceipt.receiptId
  .ok states.reduceOption

end Validation

end Kestrel.Hold
