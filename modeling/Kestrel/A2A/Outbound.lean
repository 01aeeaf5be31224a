import Kestrel.A2A.Message
import Mathlib.Algebra.GroupWithZero.Nat

/-!
# The outbound dispatch ledger

`OutboundStore`: every dispatch of a sender is one row, written by compare-and-swap against the
snapshot its caller holds. Each function takes the rows at the moment its transaction runs.
-/

namespace Kestrel.A2A

inductive DispatchState where
  | reserved
  | submitting
  | unknown
  | notSent
  | acknowledged
  | complete
  deriving DecidableEq, Repr

/-- `OutboundDispatch`: an immutable route with its current delivery evidence. -/
structure OutboundDispatch where
  dispatchId : String
  senderId : String
  senderTenant : String
  recipientId : String
  tenant : String
  signingDid : String
  interfaceUrl : String
  protocolBinding : String
  messageId : String
  requestedContextId : String
  requestDigest : String
  messageDigest : String
  dispatchTool : String
  verb : String
  createdAt : String
  state : DispatchState
  revision : ℕ
  remoteTaskId : Option String
  remoteContextId : Option String
  remoteTaskState : Option String
  responseDigest : Option String
  responseKind : Option String
  updatedAt : String
  operationId : String
  cancelOperationId : Option String
  cancelRequestDigest : Option String
  cancelState : Option DispatchState
  rootDispatchId : String
  parentDispatchId : Option String
  deriving DecidableEq, Repr

inductive OutboundError where
  | value (message : String)
  | conflict (message : String)
  /-- A required field of a protocol value is missing. -/
  | invalidProtocolValue
  /-- A write violates a unique index. -/
  | integrity
  /-- A committed row cannot be read back. -/
  | unreadable (message : String)
  /-- A walk along the ancestors took more steps than there are rows. -/
  | exhausted
  deriving DecidableEq, Repr

structure AgentInterface where
  url : String
  protocolBinding : String
  tenant : String
  protocolVersion : String
  deriving DecidableEq, Repr

/-- What the ledger uses of the protocol library, `hashlib` and `packaging`. -/
structure Wire where
  /-- `validate_proto_required_fields` accepts the answer. -/
  hasRequiredFields : Response → Bool
  interfaceHasRequiredFields : AgentInterface → Bool
  /-- `major_minor` reads the version as the native release. -/
  isNativeRelease : String → Bool
  /-- `MessageToDict` succeeds. -/
  isRepresentable : Response → Bool
  responseDigest : Response → String
  messageDigest : Message → String
  sendRequestDigest : SendMessageRequest → String
  cancelRequestDigest : CancelTaskRequest → String

namespace OutboundDispatch

/-- The sender that owns the row. -/
def sender (dispatch : OutboundDispatch) : NativeRecipientScope :=
  ⟨dispatch.senderId, dispatch.senderTenant⟩

def key (dispatch : OutboundDispatch) : NativeRecipientScope × String :=
  (dispatch.sender, dispatch.dispatchId)

def peer (dispatch : OutboundDispatch) : NativeRecipientScope :=
  ⟨dispatch.recipientId, dispatch.tenant⟩

def routeBinding (dispatch : OutboundDispatch) : List String :=
  [dispatch.senderId, dispatch.senderTenant, dispatch.recipientId, dispatch.tenant,
    dispatch.signingDid, dispatch.interfaceUrl, dispatch.protocolBinding]

/-- The rows of `a2a_outbound_remote_task_owner`. -/
def ownsTask (dispatch : OutboundDispatch) (taskId : String) : Prop :=
  dispatch.remoteTaskId = some taskId ∧ dispatch.parentDispatchId = none

/-- The rows of `a2a_outbound_continuation_owner`. -/
def liveContinuationOf (dispatch : OutboundDispatch) (parentId : String) : Prop :=
  dispatch.parentDispatchId = some parentId ∧ dispatch.state ≠ .notSent

instance (dispatch : OutboundDispatch) (taskId : String) : Decidable (dispatch.ownsTask taskId) :=
  inferInstanceAs (Decidable (_ ∧ _))

instance (dispatch : OutboundDispatch) (parentId : String) :
    Decidable (dispatch.liveContinuationOf parentId) :=
  inferInstanceAs (Decidable (_ ∧ _))

/-- Two rows share a key of the table or of one of its unique indexes. -/
def Conflicts (first second : OutboundDispatch) : Prop :=
  first.sender = second.sender ∧
    (first.dispatchId = second.dispatchId ∨ first.messageId = second.messageId ∨
      (first.peer = second.peer ∧
        ∃ taskId ∈ first.remoteTaskId, first.ownsTask taskId ∧ second.ownsTask taskId) ∨
      ∃ parentId ∈ first.parentDispatchId,
        first.liveContinuationOf parentId ∧ second.liveContinuationOf parentId)

instance (first second : OutboundDispatch) : Decidable (first.Conflicts second) :=
  inferInstanceAs (Decidable (_ ∧ _))

end OutboundDispatch

/-- `a2a_outbound_dispatches`, the dispatches of every sender. -/
abbrev OutboundRows := List OutboundDispatch

namespace OutboundRows

/-- The unique keys and indexes of the table. -/
def Indexed (rows : OutboundRows) : Prop :=
  rows.Pairwise fun first second => ¬ first.Conflicts second

instance (rows : OutboundRows) : Decidable rows.Indexed :=
  inferInstanceAs (Decidable (List.Pairwise _ _))

def get (rows : OutboundRows) (sender : NativeRecipientScope) (dispatchId : String) :
    Option OutboundDispatch :=
  rows.find? fun row => row.key = (sender, dispatchId)

end OutboundRows

/-- `_text`. -/
def requireText (value field : String) : Except OutboundError Unit :=
  Except.require (Text.isBlank value = false)
    (.value s!"Native outbound {field} must be a concrete string")

/-- `_message_digest`, of a message without its task and perhaps without its context. -/
def Wire.normalizedDigest (wire : Wire) (message : Message) (omitContext : Bool) : String :=
  wire.messageDigest
    { message with taskId := "", contextId := if omitContext then "" else message.contextId }

/-! ## Continuations -/

/-- No cancellation of the dispatch is in flight or was admitted. -/
def OutboundDispatch.uncanceled (dispatch : OutboundDispatch) : Prop :=
  dispatch.cancelState = none ∨ dispatch.cancelState = some .notSent

instance (dispatch : OutboundDispatch) : Decidable dispatch.uncanceled :=
  inferInstanceAs (Decidable (_ ∨ _))

/-- What `require_continuation` demands of every ancestor. -/
def OutboundDispatch.continues (dispatch : OutboundDispatch) (parent : Option OutboundDispatch)
    (current : OutboundDispatch) : Prop :=
  (∀ expected ∈ parent, current.dispatchId = expected.dispatchId → current = expected) ∧
    current.routeBinding = dispatch.routeBinding ∧
    current.rootDispatchId = dispatch.rootDispatchId ∧
    current.state = .acknowledged ∧
    current.remoteTaskId = dispatch.remoteTaskId ∧
    current.remoteContextId = dispatch.remoteContextId ∧
    current.uncanceled

instance (dispatch : OutboundDispatch) (parent : Option OutboundDispatch)
    (current : OutboundDispatch) : Decidable (dispatch.continues parent current) :=
  inferInstanceAs (Decidable (_ ∧ _))

def OutboundRows.lineage (rows : OutboundRows) (dispatch : OutboundDispatch)
    (parent : Option OutboundDispatch) :
    ℕ → List String → String → Except OutboundError OutboundDispatch
  | 0, _, _ => .error .exhausted
  | fuel + 1, seen, ancestorId =>
    if ancestorId ∈ seen then
      .error (.conflict "Outbound continuation lineage has a cycle")
    else
      match rows.get dispatch.sender ancestorId with
      | none => .error (.conflict
          "Continuation lineage is stale, terminal, canceled or belongs to another route")
      | some current =>
        if dispatch.continues parent current then
          match current.parentDispatchId with
          | none => .ok current
          | some next => OutboundRows.lineage rows dispatch parent fuel (ancestorId :: seen) next
        else .error (.conflict
          "Continuation lineage is stale, terminal, canceled or belongs to another route")

/-- `require_continuation`: the root of a follow-up whose ancestors all acknowledge its task. -/
def OutboundRows.requireContinuation (rows : OutboundRows) (dispatch : OutboundDispatch)
    (parent : Option OutboundDispatch) : Except OutboundError OutboundDispatch :=
  match dispatch.parentDispatchId with
  | none => .error (.conflict "A continuation needs a retained parent")
  | some ancestorId => do
    let root ← rows.lineage dispatch parent (rows.length + 1) [dispatch.dispatchId] ancestorId
    Except.require (root.dispatchId = dispatch.rootDispatchId)
      (.conflict "Continuation has no original task owner")
    .ok root

/-! ## Reservations -/

/-- The arguments of `reserve`. -/
structure ReserveCall where
  dispatchId : String
  request : SendMessageRequest
  recipient : NativeRecipientScope
  signingDid : String
  interface : AgentInterface
  dispatchTool : String
  verb : String
  parent : Option OutboundDispatch

/-- The row that a reservation inserts. -/
def ReserveCall.reservation (call : ReserveCall) (wire : Wire) (scope : NativeRecipientScope)
    (now operationId : String) : OutboundDispatch where
  dispatchId := call.dispatchId
  senderId := scope.recipientId
  senderTenant := scope.tenant
  recipientId := call.recipient.recipientId
  tenant := call.recipient.tenant
  signingDid := call.signingDid
  interfaceUrl := call.interface.url
  protocolBinding := call.interface.protocolBinding
  messageId := call.request.message.messageId
  requestedContextId := call.request.message.contextId
  requestDigest := wire.sendRequestDigest call.request
  messageDigest :=
    wire.normalizedDigest call.request.message (call.request.message.contextId = "")
  dispatchTool := call.dispatchTool
  verb := call.verb
  createdAt := now
  state := .reserved
  revision := 0
  remoteTaskId := call.parent.bind (·.remoteTaskId)
  remoteContextId := call.parent.bind (·.remoteContextId)
  remoteTaskState := none
  responseDigest := none
  responseKind := none
  updatedAt := now
  operationId := operationId
  cancelOperationId := none
  cancelRequestDigest := none
  cancelState := none
  rootDispatchId := (call.parent.map (·.rootDispatchId)).getD call.dispatchId
  parentDispatchId := call.parent.map (·.dispatchId)

/-- The checks of `reserve` that read no row. -/
def ReserveCall.validate (call : ReserveCall) (wire : Wire) : Except OutboundError Unit := do
  requireText call.dispatchId "dispatch_id"
  requireText call.signingDid "signing_did"
  requireText call.dispatchTool "dispatch_tool"
  Except.require (call.verb ∈ ["message", "question", "task"])
    (.value "Native outbound verb must be message, question or task")
  Except.require (wire.interfaceHasRequiredFields call.interface = true) .invalidProtocolValue
  Except.require
    (wire.isNativeRelease call.interface.protocolVersion = true ∧
      call.interface.protocolBinding ∈ ["JSONRPC", "HTTP+JSON"] ∧
      call.interface.tenant = call.recipient.tenant ∧
      call.request.tenant = call.recipient.tenant ∧
      call.request.message.role = .user ∧
      (call.parent = none → call.request.message.taskId = ""))
    (.value "Native outbound creation requires the selected native recipient interface")
  Except.require
    (∀ parent ∈ call.parent, call.verb ≠ "question" ∧
      parent.remoteTaskId = some call.request.message.taskId ∧
      parent.remoteContextId = some call.request.message.contextId)
    (.conflict
      "Continuation requires its retained native task, context and peer binding")

/-- The lineage check of a reservation, which only a continuation makes. -/
def ReserveCall.requireLineage (call : ReserveCall) (rows : OutboundRows)
    (reservation : OutboundDispatch) : Except OutboundError Unit :=
  match call.parent with
  | none => .ok ()
  | some parent => do
    let _ ← rows.requireContinuation reservation (some parent)
    .ok ()

/-- `reserve`, which checks the lineage once on the rows it `seen` before its transaction and
again inside it. -/
def reserve (wire : Wire) (scope : NativeRecipientScope) (now operationId : String)
    (seen rows : OutboundRows) (call : ReserveCall) :
    Except OutboundError (OutboundRows × OutboundDispatch) := do
  call.validate wire
  let reservation := call.reservation wire scope now operationId
  call.requireLineage seen reservation
  call.requireLineage rows reservation
  -- `ON CONFLICT DO NOTHING`
  Except.require (∀ row ∈ rows, ¬ row.Conflicts reservation)
    (.conflict "Outbound dispatch or original message is already reserved")
  match OutboundRows.get (rows ++ [reservation]) scope call.dispatchId with
  | none => .error (.unreadable "Committed outbound reservation was not readable")
  | some committed => .ok (rows ++ [reservation], committed)

/-! ## Transitions -/

/-- What a peer's answer proves. -/
structure Receipt where
  remoteTaskId : Option String
  remoteContextId : String
  responseDigest : String
  responseKind : String
  remoteTaskState : Option String

structure Cancellation where
  operationId : String
  requestDigest : String
  state : DispatchState

structure Assignment where
  state : DispatchState
  operationId : String
  receipt : Option Receipt
  cancellation : Option Cancellation

/-- The assignments of `_transition`'s update. -/
def Assignment.apply (assignment : Assignment) (now : String) (row : OutboundDispatch) :
    OutboundDispatch :=
  let moved := { row with
    state := assignment.state
    revision := row.revision + 1
    operationId := assignment.operationId
    updatedAt := now }
  let received := match assignment.receipt with
    | none => moved
    | some receipt => { moved with
        remoteTaskId := receipt.remoteTaskId
        remoteContextId := some receipt.remoteContextId
        responseDigest := some receipt.responseDigest
        responseKind := some receipt.responseKind
        remoteTaskState := receipt.remoteTaskState }
  match assignment.cancellation with
  | none => received
  | some cancellation => { received with
      cancelOperationId := some cancellation.operationId
      cancelRequestDigest := some cancellation.requestDigest
      cancelState := some cancellation.state }

/-- The owner guard: a root receipt names no task that another root owns. -/
def OutboundRows.ownerGuard (rows : OutboundRows) (dispatch : OutboundDispatch)
    (receipt : Option Receipt) : Prop :=
  ∀ taskId ∈ receipt.bind Receipt.remoteTaskId, dispatch.parentDispatchId = none →
    ∀ owner ∈ rows, owner.sender = dispatch.sender → owner.peer = dispatch.peer →
      owner.ownsTask taskId → owner.dispatchId = dispatch.dispatchId

instance (rows : OutboundRows) (dispatch : OutboundDispatch) (receipt : Option Receipt) :
    Decidable (rows.ownerGuard dispatch receipt) :=
  inferInstanceAs (Decidable (∀ _ ∈ _, _))

/-- `_transition`: the row changes only where it is exactly the caller's snapshot. -/
def transition (scope : NativeRecipientScope) (now : String) (rows : OutboundRows)
    (dispatch : OutboundDispatch) (sources : List DispatchState) (assignment : Assignment) :
    Except OutboundError (OutboundRows × Option OutboundDispatch) := do
  requireText assignment.operationId "operation_id"
  Except.require (dispatch.sender = scope)
    (.conflict "Outbound dispatch belongs to another sender")
  Except.require (dispatch.revision < 2 ^ 63 - 1)
    (.value "Outbound revision must fit a nonnegative SQL integer")
  if dispatch ∈ rows ∧ dispatch.state ∈ sources ∧ rows.ownerGuard dispatch assignment.receipt then
    let updated := rows.map fun row => if row = dispatch then assignment.apply now row else row
    Except.require (OutboundRows.Indexed updated) .integrity
    match OutboundRows.get updated scope dispatch.dispatchId with
    | none => .error (.unreadable "Committed outbound transition was not readable")
    | some committed => .ok (updated, some committed)
  else .ok (rows, none)

section Transitions

variable (wire : Wire) (scope : NativeRecipientScope) (now : String) (rows : OutboundRows)
  (dispatch : OutboundDispatch) (operationId : String)

def beginSubmission : Except OutboundError (OutboundRows × Option OutboundDispatch) :=
  transition scope now rows dispatch [.reserved] ⟨.submitting, operationId, none, none⟩

def markUnknown : Except OutboundError (OutboundRows × Option OutboundDispatch) :=
  transition scope now rows dispatch [.submitting] ⟨.unknown, operationId, none, none⟩

/-- `record_no_delivery`: the original dispatch never admitted HTTP. -/
def recordNoDelivery : Except OutboundError (OutboundRows × Option OutboundDispatch) :=
  transition scope now rows dispatch [.reserved, .submitting] ⟨.notSent, operationId, none, none⟩

def beginCancellation (request : CancelTaskRequest) :
    Except OutboundError (OutboundRows × Option OutboundDispatch) := do
  Except.require
    (dispatch.remoteTaskId = some request.id ∧ request.id ≠ "" ∧
      request.tenant = dispatch.tenant ∧ dispatch.uncanceled)
    (.conflict "Cancellation has no safe acknowledged route or is already in flight")
  transition scope now rows dispatch [.acknowledged]
    ⟨dispatch.state, operationId, none,
      some ⟨operationId, wire.cancelRequestDigest request, .submitting⟩⟩

def retainCancellationFailure (mayHaveSent : Bool) :
    Except OutboundError (OutboundRows × Option OutboundDispatch) :=
  match dispatch.cancelState, dispatch.cancelOperationId, dispatch.cancelRequestDigest with
  | some .submitting, some cancelOperation, some requestDigest => do
    Except.require (cancelOperation ≠ "" ∧ requestDigest ≠ "")
      (.conflict "Cancellation attempt has no durable submission claim")
    transition scope now rows dispatch [.acknowledged]
      ⟨dispatch.state, operationId, none,
        some ⟨cancelOperation, requestDigest, if mayHaveSent then .unknown else .notSent⟩⟩
  | _, _, _ => .error (.conflict "Cancellation attempt has no durable submission claim")

end Transitions

/-! ## Receipts -/

/-- The task a response names, and whether it ends the dispatch. -/
def Response.identity : Response → Except OutboundError (Option String × Bool)
  | .task answer => do
    Except.require (taskStateLabel answer.state ≠ none)
      (.conflict "Peer response has an unknown or unspecified task state")
    .ok (some answer.id, answer.state.isTerminal)
  | .message answer => do
    Except.require (answer.role = .agent)
      (.conflict "Peer response message must have the agent role")
    .ok (if answer.taskId = "" then (none, true) else (some answer.taskId, false))

def Response.stateLabel : Response → Option String
  | .task answer => taskStateLabel answer.state
  | .message _ => none

def Response.kind : Response → String
  | .task _ => "task"
  | .message _ => "message"

/-- A terminal receipt takes only a terminal task in the same state. -/
def Response.repeatsOutcome (response : Response) (dispatch : OutboundDispatch) (complete : Bool) :
    Prop :=
  complete = true ∧ response.kind = "task" ∧ response.stateLabel = dispatch.remoteTaskState

instance (response : Response) (dispatch : OutboundDispatch) (complete : Bool) :
    Decidable (response.repeatsOutcome dispatch complete) :=
  inferInstanceAs (Decidable (_ ∧ _))

def validateResponse (wire : Wire) (dispatch : OutboundDispatch) (response : Response) :
    Except OutboundError (Option String × Bool × String) := do
  Except.require (wire.hasRequiredFields response = true) .invalidProtocolValue
  Except.require (wire.isRepresentable response = true)
    (.conflict "Peer response cannot be represented as native A2A JSON")
  Except.require
    (response.contextId ≠ "" ∧
      (dispatch.requestedContextId = "" ∨ response.contextId = dispatch.requestedContextId))
    (.conflict "Peer response changed the requested context")
  let (remoteId, complete) ← response.identity
  Except.require
    ((dispatch.remoteTaskId = none ∨ remoteId = dispatch.remoteTaskId) ∧
      (dispatch.remoteContextId = none ∨ dispatch.remoteContextId = some response.contextId))
    (.conflict "Peer receipt changed the acknowledged task or context")
  Except.require (dispatch.state = .complete → response.repeatsOutcome dispatch complete)
    (.conflict "Peer changed a retained terminal outcome")
  .ok (remoteId, complete, wire.responseDigest response)

/-- The cancellation that a terminal answer ends. -/
def OutboundDispatch.endedCancellation (dispatch : OutboundDispatch) : Option Cancellation :=
  match dispatch.cancelOperationId, dispatch.cancelRequestDigest with
  | some operation, some requestDigest =>
    if operation ≠ "" ∧ requestDigest ≠ "" then some ⟨operation, requestDigest, .complete⟩
    else none
  | _, _ => none

def acknowledge (wire : Wire) (scope : NativeRecipientScope) (now : String) (rows : OutboundRows)
    (dispatch : OutboundDispatch) (operationId : String) (response : Response) :
    Except OutboundError (OutboundRows × Option OutboundDispatch) := do
  let (remoteId, complete, digest) ← validateResponse wire dispatch response
  transition scope now rows dispatch [.submitting, .unknown, .acknowledged, .complete]
    ⟨if complete then .complete else .acknowledged, operationId,
      some ⟨remoteId, response.contextId, digest, response.kind, response.stateLabel⟩,
      if complete then dispatch.endedCancellation else none⟩

/-! ## Reconciliation -/

def Message.witnesses (wire : Wire) (dispatch : OutboundDispatch) (candidate : Task)
    (message : Message) : Prop :=
  message.messageId = dispatch.messageId ∧
    (message.contextId = "" ∨ message.contextId = candidate.contextId) ∧
    (message.taskId = "" ∨ message.taskId = candidate.id) ∧
    wire.normalizedDigest message (dispatch.requestedContextId = "") = dispatch.messageDigest

instance (wire : Wire) (dispatch : OutboundDispatch) (candidate : Task) (message : Message) :
    Decidable (message.witnesses wire dispatch candidate) :=
  inferInstanceAs (Decidable (_ ∧ _))

def Task.claims (wire : Wire) (dispatch : OutboundDispatch) (candidate : Task) : Prop :=
  (dispatch.requestedContextId = "" ∨ candidate.contextId = dispatch.requestedContextId) ∧
    ∃ message ∈ candidate.history, message.witnesses wire dispatch candidate

instance (wire : Wire) (dispatch : OutboundDispatch) (candidate : Task) :
    Decidable (candidate.claims wire dispatch) :=
  inferInstanceAs (Decidable (_ ∧ _))

/-- One candidate of the loop, which keeps one snapshot of each claiming task. -/
def collectMatch (wire : Wire) (dispatch : OutboundDispatch) (found : List Task)
    (candidate : Task) : Except OutboundError (List Task) := do
  Except.require (wire.hasRequiredFields (.task candidate) = true) .invalidProtocolValue
  if candidate.claims wire dispatch then
    match found.find? fun previous => previous.id = candidate.id with
    | none => .ok (found ++ [candidate])
    | some previous =>
      Except.require (previous = candidate)
        (.conflict "Conflicting snapshots claim one remote task")
      .ok found
  else .ok found

def reconciliationCandidate (wire : Wire) (dispatch : OutboundDispatch) (candidates : List Task) :
    Except OutboundError (Option Task) := do
  Except.require (dispatch.state = .unknown)
    (.conflict "Only an unknown submission can be reconciled")
  match ← candidates.foldlM (collectMatch wire dispatch) [] with
  | [] => .ok none
  | [candidate] => .ok (some candidate)
  | _ => .error (.conflict "More than one remote task claims the original message")

def reconcile (wire : Wire) (scope : NativeRecipientScope) (now : String) (rows : OutboundRows)
    (dispatch : OutboundDispatch) (operationId : String) (candidates : List Task) :
    Except OutboundError (OutboundRows × Option OutboundDispatch) := do
  match ← reconciliationCandidate wire dispatch candidates with
  | none => .ok (rows, none)
  | some candidate => acknowledge wire scope now rows dispatch operationId (.task candidate)

end Kestrel.A2A
